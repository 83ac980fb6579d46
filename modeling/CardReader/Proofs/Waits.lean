import CardReader.Proofs.Transactions

/-!
# Waits on the grid of polls

A wait looks at the part at its start and then once in every interval, up to the last instant of
the clock.  Whether it sees the part listening in time is therefore a matter of numbers of
intervals: those that the part needs and those that the timeout allows, both rounded up.

What is proved here:

* `ends_waitReady_looked` — every wait looks once more than it lets an interval pass, and no more
  often than either number asks for;
* `ends_waitReady_on_grid` — a wait for a part that will be listening answers exactly if the timeout
  allows the intervals that the part needs, unless the clock runs out before;
* `ends_waitReady_decided`, `ends_waitReady_in_time` and `ends_waitReady_of_settling` — a part that
  will be listening in time is waited for, and no other one;
* `waitReady_on_grid` — the outcome, the time and the reads of the status of every wait for a part
  that is awake and answers.
-/

namespace CardReader

open Flash

/-! ## Intervals -/

namespace PollPolicy

variable {policy : PollPolicy} {us count : Nat}

/-- Microseconds between two polls; even a delay of nothing takes one. -/
def step (policy : PollPolicy) : Nat := max policy.interval 1

/-- Microseconds that a wait takes for something that will have happened in `us` microseconds: the
first poll that is not too early. -/
def span (policy : PollPolicy) (us : Nat) : Nat :=
  (us + (policy.step - 1)) / policy.step * policy.step

/-- How many intervals it takes until `us` microseconds have passed. -/
def intervals (policy : PollPolicy) (us : Nat) : Nat := (us + (policy.step - 1)) / policy.step

/-- How many intervals a wait lets pass for something that will have happened in `us` microseconds:
it gives up after those that the timeout allows. -/
def delays (policy : PollPolicy) (us : Nat) : Nat :=
  min (policy.intervals us) (policy.intervals policy.timeout)

theorem step_pos (policy : PollPolicy) : 0 < policy.step := Nat.le_max_right _ _

theorem span_eq_mul (policy : PollPolicy) (us : Nat) :
    policy.span us = policy.intervals us * policy.step := rfl

/-- The number of intervals is rounded up. -/
theorem intervals_le_iff : policy.intervals us ≤ count ↔ us ≤ count * policy.step := by
  have hpos := policy.step_pos
  rw [intervals, ← Nat.lt_succ_iff, Nat.div_lt_iff_lt_mul hpos, Nat.succ_mul]
  omega

theorem lt_intervals_iff : count < policy.intervals us ↔ count * policy.step < us := by
  rw [← Nat.not_le, intervals_le_iff, Nat.not_le]

theorem le_span (policy : PollPolicy) (us : Nat) : us ≤ policy.span us :=
  intervals_le_iff.1 (Nat.le_refl _)

/-- A wait takes no more than one interval too long. -/
theorem span_le (policy : PollPolicy) (us : Nat) : policy.span us ≤ us + policy.step := by
  have hmul := Nat.div_mul_le_self (us + (policy.step - 1)) policy.step
  rw [span]
  omega

@[simp] theorem span_zero (policy : PollPolicy) : policy.span 0 = 0 := by
  have hzero : policy.intervals 0 ≤ 0 := intervals_le_iff.2 (Nat.zero_le _)
  rw [span_eq_mul, Nat.le_zero.1 hzero, Nat.zero_mul]

/-- The timeout allows as many intervals as it takes for something that will have happened in `us`
microseconds. -/
def Reaches (policy : PollPolicy) (us : Nat) : Prop := policy.span us ≤ policy.span policy.timeout

instance (policy : PollPolicy) (us : Nat) : Decidable (policy.Reaches us) :=
  inferInstanceAs (Decidable (_ ≤ _))

theorem reaches_iff : policy.Reaches us ↔ policy.intervals us ≤ policy.intervals policy.timeout :=
  Nat.mul_le_mul_right_iff policy.step_pos

theorem reaches_of_le (h : us ≤ policy.timeout) : policy.Reaches us :=
  Nat.mul_le_mul_right _ (Nat.div_le_div_right (by omega))

/-- A wait that begins now for something that will have happened in `us` microseconds answers: the
timeout allows it, and the clock can show that instant. -/
structure InTime (policy : PollPolicy) (clock : Clock) (us : Nat) : Prop where
  reaches : policy.Reaches us
  le_last : clock.now + us ≤ lastInstant

end PollPolicy

/-! ## Looks -/

section Waits

variable {σ : Type} [Bus σ] [Carrier σ] {rig : Rig σ} {policy : PollPolicy} {wake : Nat}

/-- A wait for the instant `wake` has let `delays` intervals pass. -/
structure Looked (rig : Rig σ) (policy : PollPolicy) (wake delays : Nat) (r : Rig σ) : Prop where
  strays_eq : Carrier.strays r.bus = Carrier.strays rig.bus
  now_eq : r.clock.now = min (rig.clock.now + delays * policy.step) lastInstant
  needed : delays ≤ policy.intervals (wake - rig.clock.now)
  allowed : delays ≤ policy.intervals policy.timeout

namespace Looked

variable {delays : Nat} {r : Rig σ}

theorem start : Looked rig policy wake 0 rig := by
  have hlast := rig.clock.now_le
  exact ⟨rfl, by omega, Nat.zero_le _, Nat.zero_le _⟩

/-- A look takes no time. -/
theorem abreast (h : Looked rig policy wake delays r) {r' : Rig σ} (habreast : r.Abreast r') :
    Looked rig policy wake delays r' :=
  ⟨habreast.strays_eq.trans h.strays_eq, by rw [habreast.clock_eq, h.now_eq], h.needed, h.allowed⟩

/-- A look that finds the part awake is the first one that could. -/
theorem delays_eq (h : Looked rig policy wake delays r) (hawake : wake ≤ r.clock.now) :
    delays = policy.intervals (wake - rig.clock.now) := by
  refine Nat.le_antisymm h.needed (PollPolicy.intervals_le_iff.2 ?_)
  rw [h.now_eq] at hawake
  omega

theorem awake (h : Looked rig policy wake delays r) (hawake : wake ≤ r.clock.now) :
    policy.Reaches (wake - rig.clock.now) ∧
      r.clock.now = min (rig.clock.now + policy.span (wake - rig.clock.now)) lastInstant := by
  rw [PollPolicy.reaches_iff, PollPolicy.span_eq_mul, ← h.delays_eq hawake]
  exact ⟨h.allowed, h.now_eq⟩

/-- On a clock that has not run out, a look that finds the part asleep stands on the grid. -/
theorem early (h : Looked rig policy wake delays r) (hasleep : ¬wake ≤ r.clock.now)
    (hgrid : rig.clock.now + delays * policy.step ≤ lastInstant) :
    delays < policy.intervals (wake - rig.clock.now) := by
  rw [PollPolicy.lt_intervals_iff]
  rw [h.now_eq, Nat.min_eq_left hgrid] at hasleep
  omega

/-- A look after the timeout that finds the part asleep is the last one. -/
theorem expired (h : Looked rig policy wake delays r) (hasleep : ¬wake ≤ r.clock.now)
    (hexpired : (Deadline.after rig.clock policy.timeout).expired r.clock = true) :
    ¬policy.Reaches (wake - rig.clock.now) ∧
        r.clock.now = min (rig.clock.now + policy.span policy.timeout) lastInstant ∨
      r.clock.now = lastInstant ∧
        lastInstant < rig.clock.now + policy.span (wake - rig.clock.now) := by
  have hneed := PollPolicy.le_span policy (wake - rig.clock.now)
  have hnow := h.now_eq
  have hover : min (rig.clock.now + policy.timeout) lastInstant ≤ r.clock.now :=
    of_decide_eq_true hexpired
  by_cases htimeout : policy.timeout ≤ delays * policy.step ∧
      rig.clock.now + delays * policy.step ≤ lastInstant
  · have hall : delays = policy.intervals policy.timeout :=
      Nat.le_antisymm h.allowed (PollPolicy.intervals_le_iff.2 htimeout.1)
    have hearly := h.early hasleep htimeout.2
    rw [PollPolicy.reaches_iff, PollPolicy.span_eq_mul, ← hall, hnow]
    exact .inl ⟨Nat.not_le.2 hearly, rfl⟩
  · exact .inr (by omega)

/-- Before the timeout there is another look. -/
theorem next (h : Looked rig policy wake delays r) (hasleep : ¬wake ≤ r.clock.now)
    (hopen : (Deadline.after rig.clock policy.timeout).expired r.clock = false) :
    Looked rig policy wake (delays + 1) { r with clock := r.clock.delay policy.interval } := by
  have hnow := h.now_eq
  have hleft : ¬min (rig.clock.now + policy.timeout) lastInstant ≤ r.clock.now :=
    of_decide_eq_false hopen
  have hgrid : rig.clock.now + delays * policy.step ≤ lastInstant := by omega
  refine ⟨h.strays_eq, ?_, h.early hasleep hgrid, PollPolicy.lt_intervals_iff.2 (by omega)⟩
  have hdelay : max policy.interval 1 = policy.step := rfl
  simp only [Clock.delay, Clock.advance, hdelay, Nat.succ_mul]
  omega

/-- No wait lets more intervals pass than it has to, so a clock that has the time for those shows
the time of every look. -/
theorem now_eq_of_clock (h : Looked rig policy wake delays r)
    (hclock : rig.clock.now + policy.delays (wake - rig.clock.now) * policy.step ≤ lastInstant) :
    r.clock.now = rig.clock.now + delays * policy.step := by
  have hle : delays ≤ policy.delays (wake - rig.clock.now) := Nat.le_min.2 ⟨h.needed, h.allowed⟩
  have hmul := Nat.mul_le_mul_right policy.step hle
  rw [h.now_eq, Nat.min_eq_left (by omega)]

/-- On such a clock the last look that finds the part asleep comes after all the intervals that the
timeout allows, and those are too few. -/
theorem expired_of_clock (h : Looked rig policy wake delays r) (hasleep : ¬wake ≤ r.clock.now)
    (hexpired : (Deadline.after rig.clock policy.timeout).expired r.clock = true)
    (hclock : rig.clock.now + policy.delays (wake - rig.clock.now) * policy.step ≤ lastInstant) :
    delays = policy.intervals policy.timeout ∧
      policy.intervals policy.timeout < policy.intervals (wake - rig.clock.now) := by
  have hnow := h.now_eq_of_clock hclock
  have hlast := r.clock.now_le
  have hearly := h.early hasleep (by omega)
  have hover : min (rig.clock.now + policy.timeout) lastInstant ≤ r.clock.now :=
    of_decide_eq_true hexpired
  suffices hall : policy.intervals policy.timeout ≤ delays by
    have hallowed := h.allowed
    omega
  by_cases htimeout : policy.timeout ≤ delays * policy.step
  · exact PollPolicy.intervals_le_iff.2 htimeout
  · -- the clock shows its last instant, so there is no interval left to let pass
    have hspent : policy.delays (wake - rig.clock.now) * policy.step ≤ delays * policy.step := by
      omega
    have hleft := Nat.le_of_mul_le_mul_right hspent policy.step_pos
    unfold PollPolicy.delays at hleft
    omega

end Looked

/-- On a bus that loses nothing, the wait for a part that will be listening at an instant lets no
more intervals pass than the part needs and the timeout allows, and looks at the part once more. -/
theorem ends_waitReady_looked (hstrays : ∀ failure, ¬Carrier.strays rig.bus failure)
    (hresponse : rig.part.faults.unresponsive = false)
    (hwake : ∀ clock, Part.Listening clock rig.part ↔ wake ≤ clock.now) :
    Op.Ends (Sequence.waitReady policy) rig
      (fun _ r => ∃ delays, Looked rig policy wake delays r ∧
        Part.Polled (delays + 1) rig.part r.part ∧ wake ≤ r.clock.now)
      (fun failure r => ∃ delays, Looked rig policy wake delays r ∧
        Part.Polled (delays + 1) rig.part r.part ∧ ¬wake ≤ r.clock.now ∧
        (Deadline.after rig.clock policy.timeout).expired r.clock = true ∧
        failure = .busyTimeout) := by
  refine Op.ends_wait (fun r => ∃ delays, Looked rig policy wake delays r ∧
    Part.Polled delays rig.part r.part) ?_ ⟨0, .start, .zero _⟩
  rintro r ⟨delays, hlooked, hpolled⟩
  have huntouched := hpolled.untouched
  refine (ends_readyProbe r policy).mono ?_ ?_
  · rintro answer r' ⟨hprobed, habreast, -, rfl⟩
    have hlooked' := hlooked.abreast habreast
    have hpolled' := hpolled.snoc hprobed
    have hlisten : Part.Listening r.clock r.part ↔ wake ≤ r'.clock.now := by
      rw [huntouched.listening, hwake, habreast.clock_eq]
    by_cases hawake : wake ≤ r'.clock.now
    · rw [if_pos (hlisten.2 hawake)]
      exact ⟨delays, hlooked', hpolled', hawake⟩
    · rw [if_neg (mt hlisten.1 hawake)]
      refine ⟨fun hexpired => ?_, fun hopen => ?_⟩
      · exact ⟨delays, hlooked', hpolled', hawake, hexpired, rfl⟩
      · exact ⟨delays + 1, hlooked'.next hawake hopen, hpolled'⟩
  · rintro failure r' ⟨-, -, hstray | ⟨-, hsilent⟩⟩
    · rw [hlooked.strays_eq] at hstray
      exact absurd hstray (hstrays failure)
    · rw [huntouched.faults_eq, hresponse] at hsilent
      cases hsilent

/-- On a bus that loses nothing, the wait for a part that will be listening at an instant ends at
the first poll that is not too early, or at the first poll after the timeout, whichever comes first;
a clock that runs out may end it before. -/
theorem ends_waitReady_on_grid (hstrays : ∀ failure, ¬Carrier.strays rig.bus failure)
    (hresponse : rig.part.faults.unresponsive = false)
    (hwake : ∀ clock, Part.Listening clock rig.part ↔ wake ≤ clock.now) :
    Op.Ends (Sequence.waitReady policy) rig
      (fun _ r => Part.Untouched rig.part r.part ∧
        Carrier.strays r.bus = Carrier.strays rig.bus ∧ policy.Reaches (wake - rig.clock.now) ∧
        r.clock.now = min (rig.clock.now + policy.span (wake - rig.clock.now)) lastInstant)
      (fun failure r => Part.Untouched rig.part r.part ∧
        Carrier.strays r.bus = Carrier.strays rig.bus ∧ failure = .busyTimeout ∧
        (¬policy.Reaches (wake - rig.clock.now) ∧
            r.clock.now = min (rig.clock.now + policy.span policy.timeout) lastInstant ∨
          r.clock.now = lastInstant ∧
            lastInstant < rig.clock.now + policy.span (wake - rig.clock.now))) := by
  refine (ends_waitReady_looked hstrays hresponse hwake).mono ?_ ?_
  · rintro _ r ⟨delays, hlooked, hpolled, hawake⟩
    exact ⟨hpolled.untouched, hlooked.strays_eq, hlooked.awake hawake⟩
  · rintro failure r ⟨delays, hlooked, hpolled, hasleep, hexpired, hfailure⟩
    exact ⟨hpolled.untouched, hlooked.strays_eq, hfailure, hlooked.expired hasleep hexpired⟩

/-- On a bus that loses nothing, the wait for a part that will be listening in `us` microseconds
answers exactly if it is in time. -/
theorem ends_waitReady_decided {us : Nat} (hstrays : ∀ failure, ¬Carrier.strays rig.bus failure)
    (hresponse : rig.part.faults.unresponsive = false)
    (hwake : ∀ clock, Part.Listening clock rig.part ↔ rig.clock.now + us ≤ clock.now) :
    Op.Ends (Sequence.waitReady policy) rig
      (fun _ r => Part.Untouched rig.part r.part ∧
        Carrier.strays r.bus = Carrier.strays rig.bus ∧ Part.Listening r.clock r.part ∧
        policy.InTime rig.clock us ∧
        r.clock.now = min (rig.clock.now + policy.span us) lastInstant)
      (fun failure r => failure = .busyTimeout ∧ Part.Untouched rig.part r.part ∧
        ¬policy.InTime rig.clock us) := by
  have hus : rig.clock.now + us - rig.clock.now = us := Nat.add_sub_cancel_left _ _
  refine (ends_waitReady_looked hstrays hresponse hwake).mono ?_ ?_
  · rintro _ r ⟨delays, hlooked, hpolled, hawake⟩
    obtain ⟨hreaches, hnow⟩ := hlooked.awake hawake
    rw [hus] at hreaches hnow
    refine ⟨hpolled.untouched, hlooked.strays_eq, ?_,
      ⟨hreaches, Nat.le_trans hawake r.clock.now_le⟩, hnow⟩
    rw [hpolled.untouched.listening, hwake]
    exact hawake
  · rintro failure r ⟨delays, hlooked, hpolled, hasleep, hexpired, rfl⟩
    refine ⟨rfl, hpolled.untouched, fun h => ?_⟩
    rcases hlooked.expired hasleep hexpired with ⟨hshort, -⟩ | ⟨hlast, -⟩
    · rw [hus] at hshort
      exact hshort h.reaches
    · exact hasleep (by rw [hlast]; exact h.le_last)

/-- A part that will be listening before the timeout, and before the clock runs out, is waited for.
The last poll may come when the clock has run out. -/
theorem ends_waitReady_in_time (hstrays : ∀ failure, ¬Carrier.strays rig.bus failure)
    (hresponse : rig.part.faults.unresponsive = false)
    (hwake : ∀ clock, Part.Listening clock rig.part ↔ wake ≤ clock.now)
    (htimeout : wake ≤ rig.clock.now + policy.timeout) (hclock : wake ≤ lastInstant) :
    Op.Ends (Sequence.waitReady policy) rig
      (fun _ r => Part.Untouched rig.part r.part ∧
        Carrier.strays r.bus = Carrier.strays rig.bus ∧ Part.Listening r.clock r.part ∧
        r.clock.now = min (rig.clock.now + policy.span (wake - rig.clock.now)) lastInstant)
      (fun _ _ => False) := by
  refine (ends_waitReady_looked hstrays hresponse hwake).mono ?_ ?_
  · rintro _ r ⟨delays, hlooked, hpolled, hawake⟩
    have huntouched := hpolled.untouched
    refine ⟨huntouched, hlooked.strays_eq, ?_, (hlooked.awake hawake).2⟩
    rw [huntouched.listening, hwake]
    exact hawake
  · rintro failure r ⟨delays, hlooked, -, hasleep, hexpired, -⟩
    rcases hlooked.expired hasleep hexpired with ⟨hshort, -⟩ | ⟨hlast, -⟩
    · exact hshort (PollPolicy.reaches_of_le (by omega))
    · omega

/-- On a clock that has the time for it, the wait for a part that will be listening before the
timeout takes exactly the polls that reach that instant. -/
theorem ends_waitReady_of_settling (hstrays : ∀ failure, ¬Carrier.strays rig.bus failure)
    (hresponse : rig.part.faults.unresponsive = false)
    (hwake : ∀ clock, Part.Listening clock rig.part ↔ wake ≤ clock.now)
    (htimeout : wake ≤ rig.clock.now + policy.timeout)
    (hclock : rig.clock.now + policy.span (wake - rig.clock.now) ≤ lastInstant) :
    Op.Ends (Sequence.waitReady policy) rig
      (fun _ r => Part.Untouched rig.part r.part ∧
        Carrier.strays r.bus = Carrier.strays rig.bus ∧
        r.clock.now = rig.clock.now + policy.span (wake - rig.clock.now))
      (fun _ _ => False) := by
  have hspan := policy.le_span (wake - rig.clock.now)
  refine (ends_waitReady_in_time hstrays hresponse hwake htimeout (by omega)).imp ?_
  rintro _ r ⟨huntouched, hsame, -, hnow⟩
  rw [Nat.min_eq_left hclock] at hnow
  exact ⟨huntouched, hsame, hnow⟩

end Waits

/-! ## Waits for a part -/

/-- Microseconds until the part is neither at work nor recovering. -/
def Part.untilReady (clock : Clock) (part : Part) : Nat :=
  max part.busyUntil part.deafUntil - clock.now

/-- A part that is awake and not stuck is listening once its work and its recovery are over. -/
theorem Part.listening_iff_of_awake {part : Part} (hawake : part.poweredDown = false)
    (hstuck : part.faults.stuckBusy = false) (clock : Clock) :
    Listening clock part ↔ max part.busyUntil part.deafUntil ≤ clock.now := by
  rw [listening_iff, hawake, deaf, busy, hstuck]
  simp only [Bool.false_or, decide_eq_false_iff_not, true_and]
  omega

/-- A wait for a part that is awake and answers is decided by two numbers of intervals, the one
that the part needs and the one that the timeout allows.  It answers if the first is not larger,
and is out of time otherwise; it lets the smaller number of intervals pass and reads the status once
more, and nothing else about the part has changed. -/
theorem waitReady_on_grid (policy : PollPolicy) (rig : Rig Part)
    (hawake : rig.bus.poweredDown = false) (hstuck : rig.bus.faults.stuckBusy = false)
    (hresponse : rig.bus.faults.unresponsive = false)
    (hclock : rig.clock.now + policy.delays (rig.bus.untilReady rig.clock) * policy.step ≤
      lastInstant) :
    ∃ r, Sequence.waitReady policy rig =
        (if policy.intervals (rig.bus.untilReady rig.clock) ≤ policy.intervals policy.timeout then
          .ok () else .error .busyTimeout, r) ∧
      r.clock.now = rig.clock.now + policy.delays (rig.bus.untilReady rig.clock) * policy.step ∧
      Part.Polled (policy.delays (rig.bus.untilReady rig.clock) + 1) rig.bus r.bus := by
  have hends : Op.Ends (Sequence.waitReady policy) rig _ _ :=
    ends_waitReady_looked (fun _ => id) hresponse (Part.listening_iff_of_awake hawake hstuck)
  cases hrun : Sequence.waitReady policy rig with
  | mk outcome r =>
    cases outcome with
    | ok answer =>
      obtain ⟨delays, hlooked, hpolled, hready⟩ := (Op.ends_of_ok hrun).1 hends
      have hneeded : delays = policy.intervals (rig.bus.untilReady rig.clock) :=
        hlooked.delays_eq hready
      have hreaches : policy.intervals (rig.bus.untilReady rig.clock) ≤
          policy.intervals policy.timeout := hneeded ▸ hlooked.allowed
      have hdelays : policy.delays (rig.bus.untilReady rig.clock) = delays := by
        rw [PollPolicy.delays, Nat.min_eq_left hreaches, hneeded]
      rw [if_pos hreaches, hdelays]
      exact ⟨r, rfl, hlooked.now_eq_of_clock hclock, hpolled⟩
    | error failure =>
      obtain ⟨delays, hlooked, hpolled, hasleep, hexpired, rfl⟩ := (Op.ends_of_error hrun).1 hends
      obtain ⟨hall, hlate⟩ := hlooked.expired_of_clock hasleep hexpired hclock
      have hshort : policy.intervals policy.timeout <
          policy.intervals (rig.bus.untilReady rig.clock) := hlate
      have hdelays : policy.delays (rig.bus.untilReady rig.clock) = delays := by
        rw [hall]
        exact Nat.min_eq_right (Nat.le_of_lt hshort)
      rw [if_neg (Nat.not_le.2 hshort), hdelays]
      exact ⟨r, rfl, hlooked.now_eq_of_clock hclock, hpolled⟩

/-- A part at work for 250 microseconds is waited for in three intervals of 100, although the
timeout is 201; it is looked at four times. -/
theorem waitReady_on_grid_past_timeout :
    let policy : PollPolicy := { timeout := 201, interval := 100 }
    let rig : Rig Part :=
      { bus := { Part.new { size := 16 } with busyUntil := 250, writeEnabled := true }
        clock := .start }
    rig.bus.poweredDown = false ∧ rig.bus.faults.stuckBusy = false ∧
      rig.bus.faults.unresponsive = false ∧
      ∃ r, Sequence.waitReady policy rig = (.ok (), r) ∧ r.clock.now = 300 ∧
        Part.Polled 4 rig.bus r.bus := by
  intro policy rig
  obtain ⟨r, hrun, hnow, hpolled⟩ := waitReady_on_grid policy rig rfl rfl rfl (by decide)
  have hdelays : policy.delays (rig.bus.untilReady rig.clock) = 3 := by decide
  rw [if_pos (by decide)] at hrun
  rw [hdelays] at hnow hpolled
  exact ⟨rfl, rfl, rfl, r, hrun, hnow, hpolled⟩

end CardReader
