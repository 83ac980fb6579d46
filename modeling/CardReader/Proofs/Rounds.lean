import CardReader.Proofs.Grammar
import CardReader.Proofs.Waits

/-!
# How often a wait asks

Whatever a bus answers, a wait under a poll policy asks once and then once more after each interval
that the timeout allows.  Refilling the write FIFO takes a round for each refill besides, and every
refill takes at least one byte.  The clock may stand still at its last instant, where every deadline
has come; so no wait outlasts its policy there either.

What is proved here:

* `Op.rounds_pollUntil` — a wait ends after no more rounds than the time left allows, whatever its
  probe is;
* `rounds_topUp` — so does the refilling of a FIFO of any depth but none, which never finds more
  in the FIFO than it can hold;
* `Op.Waited.punctual` and `Filled.punctual` — a timeout that a wait adds to the failures of its
  probe comes when its deadline has come;
* `Op.Waited.tally` — what one probe counts, a wait counts once for each round;
* `waits_bounded` — the four waits of the controller on any bus.
-/

namespace CardReader

open Flash

/-! ## Time left -/

namespace Deadline

variable {deadline : Deadline} {clock : Clock}

/-- A delay takes its whole length from the time left, also where the clock stops. -/
theorem remaining_delay_le (deadline : Deadline) (clock : Clock) (us : Nat) :
    deadline.remaining (clock.delay us) ≤ deadline.remaining clock - max us 1 := by
  have hlast := deadline.instant_le
  simp only [remaining, Clock.delay, Clock.advance]
  omega

theorem remaining_after_le (clock : Clock) (us : Nat) :
    (Deadline.after clock us).remaining clock ≤ us := by
  simp only [remaining, after]
  omega

theorem expired_iff : deadline.expired clock = true ↔ deadline.instant ≤ clock.now :=
  decide_eq_true_iff

theorem not_expired_iff : ¬deadline.expired clock = true ↔ clock.now < deadline.instant := by
  rw [expired_iff, Nat.not_le]

end Deadline

namespace PollPolicy

variable {policy : PollPolicy}

theorem intervals_mono {us us' : Nat} (h : us ≤ us') : policy.intervals us ≤ policy.intervals us' :=
  intervals_le_iff.2 (Nat.le_trans h (policy.le_span us'))

/-- A delay before the deadline leaves one interval less. -/
theorem intervals_delay_lt (policy : PollPolicy) {deadline : Deadline} {clock : Clock}
    (h : clock.now < deadline.instant) :
    policy.intervals (deadline.remaining (clock.delay policy.interval)) <
      policy.intervals (deadline.remaining clock) := by
  have hleft : 0 < deadline.remaining clock := Nat.sub_pos_of_lt h
  have hpos : 0 < policy.intervals (deadline.remaining clock) :=
    lt_intervals_iff.2 (by rwa [Nat.zero_mul])
  suffices policy.intervals (deadline.remaining (clock.delay policy.interval)) ≤
      policy.intervals (deadline.remaining clock) - 1 by omega
  rw [intervals_le_iff, Nat.sub_mul, Nat.one_mul]
  exact Nat.le_trans (deadline.remaining_delay_le clock policy.interval)
    (Nat.sub_le_sub_right (policy.le_span _) _)

end PollPolicy

namespace Flash

/-! ## Rounds of a wait -/

namespace Op

variable {σ α : Type} {probe : Op σ (Option α)} {late : Failure} {policy : PollPolicy}
  {deadline : Deadline} {rounds : Nat} {rig : Rig σ} {ended : Except Failure α × Rig σ}

/-- Begun on `rig`, a wait has asked its probe `rounds` times, each time but the last without an
answer and before the deadline, and has ended with the last one. -/
inductive Waited (probe : Op σ (Option α)) (late : Failure) (policy : PollPolicy)
    (deadline : Deadline) : Nat → Rig σ → Except Failure α × Rig σ → Prop where
  /-- The probe has answered. -/
  | answered {rig r : Rig σ} {a : α} (hprobe : probe rig = (.ok (some a), r)) :
    Waited probe late policy deadline 1 rig (.ok a, r)
  /-- The probe itself has failed. -/
  | failed {rig r : Rig σ} {failure : Failure} (hprobe : probe rig = (.error failure, r)) :
    Waited probe late policy deadline 1 rig (.error failure, r)
  /-- The probe has found nothing, and the deadline has come. -/
  | late {rig r : Rig σ} (hprobe : probe rig = (.ok none, r))
    (hcome : deadline.instant ≤ r.clock.now) :
    Waited probe late policy deadline 1 rig (.error late, r)
  /-- The probe has found nothing, and there is time for another. -/
  | again {rounds : Nat} {rig r : Rig σ} {ended : Except Failure α × Rig σ}
    (hprobe : probe rig = (.ok none, r)) (hleft : r.clock.now < deadline.instant)
    (hrest : Waited probe late policy deadline rounds
      { r with clock := r.clock.delay policy.interval } ended) :
    Waited probe late policy deadline (rounds + 1) rig ended

/-- A wait asks once, and once more for every interval that is left. -/
theorem rounds_pollUntil (probe : Op σ (Option α)) (forward : Forward probe) (late : Failure)
    (policy : PollPolicy) (deadline : Deadline) (rig : Rig σ) :
    ∃ rounds, rounds ≤ policy.intervals (deadline.remaining rig.clock) + 1 ∧
      Waited probe late policy deadline rounds rig
        (pollUntil probe forward late policy.interval deadline rig) := by
  fun_induction pollUntil probe forward late policy.interval deadline rig with
  | case1 rig failure rig' answer => exact ⟨1, Nat.le_add_left _ _, .failed answer⟩
  | case2 rig a rig' answer => exact ⟨1, Nat.le_add_left _ _, .answered answer⟩
  | case3 rig bus clock progress answer expired =>
    exact ⟨1, Nat.le_add_left _ _, .late answer (Deadline.expired_iff.1 expired)⟩
  | case4 rig bus clock progress answer expired ih =>
    obtain ⟨rounds, hrounds, hrest⟩ := ih
    have hleft : clock.now < deadline.instant := Deadline.not_expired_iff.1 expired
    refine ⟨rounds + 1, ?_, .again answer hleft hrest⟩
    -- the probe may have taken time itself, which leaves no more intervals than before
    have hforward : rig.clock.now ≤ clock.now := by
      have h := forward rig
      rw [answer] at h
      exact h
    have hprobed : policy.intervals (deadline.remaining clock) ≤
        policy.intervals (deadline.remaining rig.clock) :=
      PollPolicy.intervals_mono (Deadline.remaining_le_of_now_le hforward)
    have hdelay : policy.intervals (deadline.remaining (clock.delay policy.interval)) <
        policy.intervals (deadline.remaining clock) := policy.intervals_delay_lt hleft
    have hbound : rounds ≤
        policy.intervals (deadline.remaining (clock.delay policy.interval)) + 1 := hrounds
    omega

/-- A wait fails as its probe does, or late and then no earlier than its deadline. -/
theorem Waited.punctual (h : Waited probe late policy deadline rounds rig ended) :
    ∀ failure r, ended = (.error failure, r) →
      (∃ asked, probe asked = (.error failure, r)) ∨
        failure = late ∧ deadline.instant ≤ r.clock.now := by
  induction h with
  | answered =>
    intro failure r hended
    cases hended
  | failed hprobe =>
    intro failure r hended
    cases hended
    exact .inl ⟨_, hprobe⟩
  | late hprobe hcome =>
    intro failure r hended
    cases hended
    exact .inr ⟨rfl, hcome⟩
  | again hprobe hleft hrest ih => exact ih

/-- What every probe raises by one, and no delay changes, a wait raises by its rounds. -/
theorem Waited.tally (h : Waited probe late policy deadline rounds rig ended) (count : σ → Nat)
    (hprobe : ∀ asked, count (probe asked).2.bus = count asked.bus + 1) :
    count ended.2.bus = count rig.bus + rounds := by
  induction h with
  | @answered asked _ _ hasked | @failed asked _ _ hasked | @late asked _ hasked =>
    have honce := hprobe asked
    rwa [hasked] at honce
  | @again rounds asked r ended hasked hleft hrest ih =>
    have honce : count r.bus = count asked.bus + 1 := by
      have h := hprobe asked
      rwa [hasked] at h
    calc count ended.2.bus = count r.bus + rounds := ih
      _ = count asked.bus + (rounds + 1) := by rw [honce, Nat.add_right_comm, Nat.add_assoc]

/-- A wait under its policy: it asks no more often than the timeout allows, and it is late only
when its deadline has come. -/
structure Bounded (probe : Op σ (Option α)) (late : Failure) (policy : PollPolicy) (rig : Rig σ)
    (ended : Except Failure α × Rig σ) : Prop where
  /-- It asks once, and once more for every interval of the timeout. -/
  rounds : ∃ rounds, rounds ≤ policy.intervals policy.timeout + 1 ∧
    Waited probe late policy (.after rig.clock policy.timeout) rounds rig ended
  /-- It fails as its probe does, or late and then no earlier than its deadline. -/
  punctual : ∀ failure r, ended = (.error failure, r) →
    (∃ asked, probe asked = (.error failure, r)) ∨
      failure = late ∧ (Deadline.after rig.clock policy.timeout).instant ≤ r.clock.now

theorem bounded_wait (probe : Op σ (Option α)) (forward : Forward probe) (late : Failure)
    (policy : PollPolicy) (rig : Rig σ) :
    Bounded probe late policy rig (wait probe forward late policy rig) := by
  obtain ⟨rounds, hrounds, hwaited⟩ :=
    rounds_pollUntil probe forward late policy (.after rig.clock policy.timeout) rig
  have hall : policy.intervals ((Deadline.after rig.clock policy.timeout).remaining rig.clock) ≤
      policy.intervals policy.timeout :=
    PollPolicy.intervals_mono (Deadline.remaining_after_le rig.clock policy.timeout)
  exact ⟨⟨rounds, by omega, hwaited⟩, hwaited.punctual⟩

/-- What every probe raises by one, a wait raises no more often than it may ask. -/
theorem Bounded.tally_le (h : Bounded probe late policy rig ended) (count : σ → Nat)
    (hprobe : ∀ asked, count (probe asked).2.bus = count asked.bus + 1) :
    count ended.2.bus ≤ count rig.bus + (policy.intervals policy.timeout + 1) := by
  obtain ⟨rounds, hrounds, hwaited⟩ := h.rounds
  rw [hwaited.tally count hprobe]
  exact Nat.add_le_add_left hrounds _

end Op

/-! ## Rounds of a refill -/

section TopUp

variable {σ : Type} [Bus σ] {opcode : UInt8} {depth room rounds : Nat} {policy : PollPolicy}
  {deadline : Deadline} {data : List UInt8} {rig : Rig σ} {ended : Except Failure Unit × Rig σ}

/-- The FIFO has drained to half its depth, and there is room for at least one of the bytes. -/
structure Drained (depth : Nat) (data : List UInt8) (rig : Rig σ) (room : Nat) : Prop where
  /-- The FIFO holds no more than half of what it can. -/
  level_le : Bus.writeLevel rig.clock rig.bus ≤ depth / 2
  /-- The room is what the FIFO can hold besides; its level is not above its depth. -/
  level_add_room : Bus.writeLevel rig.clock rig.bus + room = depth
  /-- At least one byte goes into it. -/
  pos : 0 < min room data.length

/-- Begun on `rig` with `data` still to be sent, the refilling of a FIFO has gone through `rounds`
rounds, each of which refilled it or let an interval pass, and has ended. -/
inductive Filled (opcode : UInt8) (depth : Nat) (policy : PollPolicy) (deadline : Deadline) :
    Nat → List UInt8 → Rig σ → Except Failure Unit × Rig σ → Prop where
  /-- Everything has been sent. -/
  | full {rig : Rig σ} : Filled opcode depth policy deadline 0 [] rig (.ok (), rig)
  /-- The FIFO has refused the refill. -/
  | refused {room : Nat} {data : List UInt8} {rig : Rig σ} {failure : Failure} {bus : σ}
    (hdrained : Drained depth data rig room)
    (hwrite : Bus.writeFifo rig.clock (data.take (min room data.length)) rig.bus =
      (.error failure, bus)) :
    Filled opcode depth policy deadline 1 data rig (.error failure, { rig with bus })
  /-- The FIFO has been refilled. -/
  | refilled {rounds room : Nat} {data : List UInt8} {rig : Rig σ} {bus : σ}
    {ended : Except Failure Unit × Rig σ} (hdrained : Drained depth data rig room)
    (hwrite : Bus.writeFifo rig.clock (data.take (min room data.length)) rig.bus = (.ok (), bus))
    (hrest : Filled opcode depth policy deadline rounds (data.drop (min room data.length))
      { rig with bus } ended) :
    Filled opcode depth policy deadline (rounds + 1) data rig ended
  /-- The FIFO has not drained, and the deadline has come. -/
  | late {data : List UInt8} {rig : Rig σ} (hdata : data ≠ [])
    (hfull : depth / 2 < Bus.writeLevel rig.clock rig.bus)
    (hcome : deadline.instant ≤ rig.clock.now) :
    Filled opcode depth policy deadline 1 data rig (.error (.commandTimeout opcode), rig)
  /-- The FIFO has not drained, and there is time for another look. -/
  | again {rounds : Nat} {data : List UInt8} {rig : Rig σ} {ended : Except Failure Unit × Rig σ}
    (hdata : data ≠ []) (hfull : depth / 2 < Bus.writeLevel rig.clock rig.bus)
    (hleft : rig.clock.now < deadline.instant)
    (hrest : Filled opcode depth policy deadline rounds data
      { rig with clock := rig.clock.delay policy.interval } ended) :
    Filled opcode depth policy deadline (rounds + 1) data rig ended

/-- A FIFO of some depth that has drained to half of it has room. -/
theorem drained_of_level_le (hdepth : 0 < depth) (hdata : 0 < data.length)
    (hlevel : Bus.writeLevel rig.clock rig.bus ≤ depth / 2) :
    Drained depth data rig (depth - Bus.writeLevel rig.clock rig.bus) := by
  refine ⟨hlevel, ?_, ?_⟩
  all_goals omega

/-- The refilling takes a round for every interval that is left, and no more rounds than bytes for
its refills: a refill takes a byte at least, and only a round without one takes time. -/
theorem rounds_topUp (opcode : UInt8) (hdepth : 0 < depth) (policy : PollPolicy)
    (deadline : Deadline) (data : List UInt8) (rig : Rig σ) :
    ∃ rounds, rounds ≤ data.length + policy.intervals (deadline.remaining rig.clock) + 1 ∧
      Filled opcode depth policy deadline rounds data rig
        (Controller.topUp opcode depth policy.interval deadline data rig) := by
  fun_induction Controller.topUp opcode depth policy.interval deadline data rig with
  | case1 rig => exact ⟨0, Nat.zero_le _, .full⟩
  | case2 byte more bus clock progress level drained count empty =>
    have hroom : Drained depth (byte :: more) ⟨bus, clock, progress⟩ _ :=
      drained_of_level_le hdepth (Nat.succ_pos _) drained
    exact absurd empty (Nat.pos_iff_ne_zero.1 hroom.pos)
  | case3 byte more bus clock progress level drained count room failure bus' refused =>
    have hroom : Drained depth (byte :: more) ⟨bus, clock, progress⟩ _ :=
      drained_of_level_le hdepth (Nat.succ_pos _) drained
    exact ⟨1, Nat.le_add_left _ _, .refused hroom refused⟩
  | case4 byte more bus clock progress level drained count room bus' accepted ih =>
    have hroom : Drained depth (byte :: more) ⟨bus, clock, progress⟩ _ :=
      drained_of_level_le hdepth (Nat.succ_pos _) drained
    obtain ⟨rounds, hrounds, hrest⟩ := ih
    refine ⟨rounds + 1, ?_, .refilled hroom accepted hrest⟩
    have hbytes : ((byte :: more).drop count).length + 1 ≤ (byte :: more).length := by
      have hcount : 0 < count := hroom.pos
      rw [List.length_drop, List.length_cons]
      omega
    have hbound : rounds ≤ ((byte :: more).drop count).length +
      policy.intervals (deadline.remaining clock) + 1 := hrounds
    show rounds + 1 ≤ (byte :: more).length + policy.intervals (deadline.remaining clock) + 1
    omega
  | case5 byte more bus clock progress level full expired =>
    exact ⟨1, Nat.le_add_left _ _, .late (List.cons_ne_nil _ _) (Nat.not_le.1 full)
      (Deadline.expired_iff.1 expired)⟩
  | case6 byte more bus clock progress level full expired ih =>
    obtain ⟨rounds, hrounds, hrest⟩ := ih
    have hleft : clock.now < deadline.instant := Deadline.not_expired_iff.1 expired
    have hdelay : policy.intervals (deadline.remaining (clock.delay policy.interval)) <
        policy.intervals (deadline.remaining clock) := policy.intervals_delay_lt hleft
    refine ⟨rounds + 1, ?_, .again (List.cons_ne_nil _ _) (Nat.not_le.1 full) hleft hrest⟩
    have hbound : rounds ≤ (byte :: more).length +
      policy.intervals (deadline.remaining (clock.delay policy.interval)) + 1 := hrounds
    show rounds + 1 ≤ (byte :: more).length + policy.intervals (deadline.remaining clock) + 1
    omega

/-- The refilling fails as the FIFO does, or with a timeout and then no earlier than its
deadline. -/
theorem Filled.punctual (h : Filled opcode depth policy deadline rounds data rig ended) :
    ∀ failure r, ended = (.error failure, r) →
      (∃ bus part, Bus.writeFifo r.clock part bus = (.error failure, r.bus)) ∨
        failure = .commandTimeout opcode ∧ deadline.instant ≤ r.clock.now := by
  induction h with
  | full =>
    intro failure r hended
    cases hended
  | refused hdrained hwrite =>
    intro failure r hended
    cases hended
    exact .inl ⟨_, _, hwrite⟩
  | refilled hdrained hwrite hrest ih => exact ih
  | late hdata hfull hcome =>
    intro failure r hended
    cases hended
    exact .inr ⟨rfl, hcome⟩
  | again hdata hfull hleft hrest ih => exact ih

/-- The refilling of a FIFO for what does not fit into it at once, under a policy. -/
structure BoundedRefill (opcode : UInt8) (depth : Nat) (policy : PollPolicy)
    (payload : List UInt8) (rig : Rig σ) (ended : Except Failure Unit × Rig σ) : Prop where
  /-- It takes no more rounds than there are bytes and intervals of the timeout, and one. -/
  rounds : ∃ rounds, rounds ≤ payload.length + policy.intervals policy.timeout + 1 ∧
    Filled opcode depth policy (.after rig.clock policy.timeout) rounds
      (payload.drop (min payload.length depth)) rig ended
  /-- It fails as the FIFO does, or with a timeout and then no earlier than its deadline. -/
  punctual : ∀ failure r, ended = (.error failure, r) →
    (∃ bus part, Bus.writeFifo r.clock part bus = (.error failure, r.bus)) ∨
      failure = .commandTimeout opcode ∧
        (Deadline.after rig.clock policy.timeout).instant ≤ r.clock.now

theorem boundedRefill_topUp (opcode : UInt8) (hdepth : 0 < depth) (policy : PollPolicy)
    (payload : List UInt8) (rig : Rig σ) :
    BoundedRefill opcode depth policy payload rig
      (Controller.topUp opcode depth policy.interval (.after rig.clock policy.timeout)
        (payload.drop (min payload.length depth)) rig) := by
  obtain ⟨rounds, hrounds, hfilled⟩ := rounds_topUp opcode hdepth policy
    (.after rig.clock policy.timeout) (payload.drop (min payload.length depth)) rig
  have hall : policy.intervals ((Deadline.after rig.clock policy.timeout).remaining rig.clock) ≤
      policy.intervals policy.timeout :=
    PollPolicy.intervals_mono (Deadline.remaining_after_le rig.clock policy.timeout)
  rw [List.length_drop] at hrounds
  exact ⟨⟨rounds, by omega, hfilled⟩, hfilled.punctual⟩

end TopUp

/-! ## Rounds on a record -/

namespace Record

/-- The transaction was asked for. -/
def isPoll : Event → Bool
  | .poll _ => true
  | _ => false

/-- A read of the status was issued. -/
def isStatusRead : Event → Bool
  | .issue command _ => command == .statusRead
  | _ => false

/-- How often a transaction was asked for. -/
def polls (record : Record) : Nat := record.countP isPoll

/-- How often the status was read. -/
def statusReads (record : Record) : Nat := record.countP isStatusRead

theorem polls_poll (value : Option UInt32) (record : Record) :
    polls (.poll value :: record) = polls record + 1 := List.countP_cons_of_pos rfl

theorem statusReads_issue (accepted : Bool) (record : Record) :
    statusReads (.issue .statusRead accepted :: record) = statusReads record + 1 :=
  List.countP_cons_of_pos (beq_self_eq_true Command.statusRead)

theorem statusReads_poll (value : Option UInt32) (record : Record) :
    statusReads (.poll value :: record) = statusReads record :=
  List.countP_cons_of_neg Bool.false_ne_true

end Record

namespace Sequence

variable {σ : Type} [Bus σ]

open Op

/-- Asking for a transaction is one poll. -/
theorem polls_pollDone (asked : Rig (Recorded σ)) :
    Record.polls ((Op.call Bus.pollDone : Op (Recorded σ) (Option UInt32)) asked).2.bus.record =
      Record.polls asked.bus.record + 1 := Record.polls_poll _ _

/-- However often a transaction is asked for, no status is read meanwhile. -/
theorem records_waitDone_statusReads (opcode : UInt8) (policy : PollPolicy) (before : Record) :
    Records (waitDone opcode policy : Op (Recorded σ) UInt32) before
      (fun _ after => after.statusReads = before.statusReads)
      (fun after => after.statusReads = before.statusReads) := by
  refine records_wait (fun between => between.statusReads = before.statusReads) ?_
    (fun _ hafter => hafter) rfl
  intro between hsame
  refine records_note (fun value => ?_) fun _ => (Record.statusReads_poll _ _).trans hsame
  cases value with
  | none => exact (Record.statusReads_poll _ _).trans hsame
  | some value => exact (Record.statusReads_poll _ _).trans hsame

/-- A read of the status counts once, also if it is refused or never over. -/
theorem records_transact_statusReads (policy : PollPolicy) (before : Record) :
    Records (transact .statusRead policy : Op (Recorded σ) Command) before
      (fun _ after => after.statusReads = before.statusReads + 1)
      (fun after => after.statusReads = before.statusReads + 1) := by
  refine records_note_bind (fun _ => ?_) fun _ => Record.statusReads_issue false before
  have hissued : Record.statusReads (.issue .statusRead true :: before) = before.statusReads + 1 :=
    Record.statusReads_issue true before
  refine records_bind ((records_waitDone_statusReads _ policy _).mono_err ?_) ?_
  · intro after hafter
    exact hafter.trans hissued
  · intro value after hafter
    exact records_pure (hafter.trans hissued)

/-- Asking whether the part is ready is one read of the status. -/
theorem statusReads_readyProbe (policy : PollPolicy) (asked : Rig (Recorded σ)) :
    Record.statusReads (readyProbe policy asked).2.bus.record =
      Record.statusReads asked.bus.record + 1 := by
  have hread : Records (readStatus Opcode.readStatus1 policy : Op (Recorded σ) UInt8)
      asked.bus.record
      (fun _ after => after.statusReads = Record.statusReads asked.bus.record + 1)
      (fun after => after.statusReads = Record.statusReads asked.bus.record + 1) :=
    records_bind (records_transact_statusReads policy _) fun _ _ hafter => records_pure hafter
  have hprobe : Records (readyProbe policy : Op (Recorded σ) (Option Unit)) asked.bus.record
      (fun _ after => after.statusReads = Record.statusReads asked.bus.record + 1)
      (fun after => after.statusReads = Record.statusReads asked.bus.record + 1) :=
    records_bind hread fun _ _ hafter => records_pure hafter
  exact hprobe.both rfl

end Sequence

/-! ## The waits of the controller -/

/-- Whatever a bus answers, every wait of the controller ends within its policy, from any rig.  The
wait for a transaction, the wait for the part and the wait for a DMA channel ask once and once more
for every interval of the timeout, and the refilling of the write FIFO besides takes no more rounds
than there are bytes; each of them is late only when its deadline has come.  On a record those are
the polls of the transaction and the reads of the status. -/
theorem waits_bounded {σ : Type} [Bus σ] (policy : PollPolicy) :
    (∀ (opcode : UInt8) (rig : Rig σ),
      Op.Bounded (Op.call Bus.pollDone) (.commandTimeout opcode) policy rig
        (Sequence.waitDone opcode policy rig)) ∧
    (∀ rig : Rig σ,
      Op.Bounded (Sequence.readyProbe policy) .busyTimeout policy rig
        (Sequence.waitReady policy rig)) ∧
    (∀ (channel : Nat) (rig : Rig σ),
      Op.Bounded (Sequence.idleProbe channel) .dmaTimeout policy rig
        (Sequence.waitIdle channel policy rig)) ∧
    (∀ (opcode : UInt8) (depth : Nat) (payload : List UInt8) (rig : Rig σ), 0 < depth →
      BoundedRefill opcode depth policy payload rig
        (Controller.topUp opcode depth policy.interval (.after rig.clock policy.timeout)
          (payload.drop (min payload.length depth)) rig)) ∧
    (∀ (opcode : UInt8) (rig : Rig (Recorded σ)),
      Record.polls (Sequence.waitDone opcode policy rig).2.bus.record ≤
        Record.polls rig.bus.record + (policy.intervals policy.timeout + 1)) ∧
    ∀ rig : Rig (Recorded σ),
      Record.statusReads (Sequence.waitReady policy rig).2.bus.record ≤
        Record.statusReads rig.bus.record + (policy.intervals policy.timeout + 1) := by
  refine ⟨?_, ?_, ?_, ?_, ?_, ?_⟩
  · intro opcode rig
    exact Op.bounded_wait _ (Op.forward_call _) _ policy rig
  · intro rig
    exact Op.bounded_wait _ (Sequence.forward_readyProbe policy) _ policy rig
  · intro channel rig
    exact Op.bounded_wait _ (Op.forward_call _) _ policy rig
  · intro opcode depth payload rig hdepth
    exact boundedRefill_topUp opcode hdepth policy payload rig
  · intro opcode rig
    have hbounded : Op.Bounded (Op.call Bus.pollDone) (.commandTimeout opcode) policy rig
        (Sequence.waitDone opcode policy rig) := Op.bounded_wait _ (Op.forward_call _) _ policy rig
    exact hbounded.tally_le (fun bus => Record.polls bus.record) Sequence.polls_pollDone
  · intro rig
    have hbounded : Op.Bounded (Sequence.readyProbe policy) .busyTimeout policy rig
        (Sequence.waitReady policy rig) :=
      Op.bounded_wait _ (Sequence.forward_readyProbe policy) _ policy rig
    exact hbounded.tally_le (fun bus => Record.statusReads bus.record)
      (Sequence.statusReads_readyProbe policy)

/-- A part that is stuck at its work is read four times within 201 microseconds, and 40 bytes go
into a FIFO of 16 within 44 rounds. -/
theorem waits_bounded_stuck :
    let policy : PollPolicy := { timeout := 201, interval := 100 }
    let part : Part := { Part.new { size := 16 } with faults := { stuckBusy := true } }
    let payload : List UInt8 := List.replicate 40 0xA5
    let rig : Rig Part := { bus := part, clock := .start }
    let recorded : Rig (Recorded Part) := { bus := { bus := part }, clock := .start }
    0 < 16 ∧ Record.statusReads (Sequence.waitReady policy recorded).2.bus.record ≤ 4 ∧
      ∃ rounds, rounds ≤ 44 ∧
        Filled Opcode.pageProgram 16 policy (.after .start 201) rounds (payload.drop 16) rig
          (Controller.topUp Opcode.pageProgram 16 100 (.after .start 201) (payload.drop 16) rig) := by
  intro policy part payload rig recorded
  obtain ⟨-, -, -, hrefill, -, hreads⟩ := @waits_bounded Part _ policy
  have hintervals : policy.intervals policy.timeout = 3 := by decide
  have hread := hreads recorded
  have hrefilled := (hrefill Opcode.pageProgram 16 payload rig (by decide)).rounds
  have hlength : payload.length = 40 := List.length_replicate
  rw [hintervals] at hread
  rw [hintervals, hlength] at hrefilled
  exact ⟨by decide, hread, hrefilled⟩

end Flash

end CardReader
