import CardReader.Proofs.Program.Page
import CardReader.Proofs.Watched

/-!
# What occupies a part

A part is at work for a while after each program, erase and status write, and recovers for a while
after each reset and wake-up.  How long is a matter of the configuration, and the part keeps the
instant at which it will be over: the present one and that time added up.

What is proved here:

* `instants_feed` and `instants_issue` — the instants that a part keeps are as they were, or those
  of the period that data or a command begins;
* `listening_of_begins` — a command begins a period only if the part listens or is asleep;
* `time_of_begins` — the periods are those that the configuration gives.
-/

namespace CardReader

open Flash

namespace Part

variable {clock : Clock} {part before after : Part} {command : Command}

/-! ## Periods -/

/-- The instants that a part keeps. -/
structure Instants where
  /-- The part is at work before this instant. -/
  busyUntil : Nat
  /-- The part is recovering before this instant. -/
  deafUntil : Nat

/-- The instants of a part. -/
def instants (part : Part) : Instants := ⟨part.busyUntil, part.deafUntil⟩

/-- What occupies a part, and for how many microseconds. -/
inductive Period where
  /-- A program, an erase or a status write. -/
  | work (us : Nat)
  /-- The recovery from a reset, which puts an end to all work. -/
  | recovery (us : Nat)
  /-- The recovery from deep power down. -/
  | waking (us : Nat)

/-- Microseconds in a period. -/
def Period.time : Period → Nat
  | work us | recovery us | waking us => us

/-- The instants of a part that has begun a period at the instant `now`, if any. -/
def Instants.begin (now : Nat) (instants : Instants) : Option Period → Instants
  | none => instants
  | some (.work us) => { instants with busyUntil := now + us }
  | some (.recovery us) => ⟨0, now + us⟩
  | some (.waking us) => { instants with deafUntil := now + us }

theorem fit_congr (h : after.instants = before.instants) :
    after.InstantsFit ↔ before.InstantsFit := by
  obtain ⟨hbusy, hdeaf⟩ := Instants.mk.inj h
  rw [InstantsFit, InstantsFit, hbusy, hdeaf]

/-- Where the instants fit, the end of the last period has to. -/
theorem le_of_fit {now : Nat} {period : Period}
    (h : after.instants = before.instants.begin now (some period)) (hfit : after.InstantsFit) :
    now + period.time ≤ lastInstant := by
  obtain ⟨hbusy, hdeaf⟩ := hfit
  cases period with
  | work us =>
    rw [(Instants.mk.inj h).1] at hbusy
    exact hbusy
  | recovery us | waking us =>
    rw [(Instants.mk.inj h).2] at hdeaf
    exact hdeaf

/-- A period that ends in time leaves instants that fit. -/
theorem fit_of_le {now : Nat} {period : Period}
    (h : after.instants = before.instants.begin now (some period)) (hfit : before.InstantsFit)
    (hle : now + period.time ≤ lastInstant) : after.InstantsFit := by
  obtain ⟨hbusy, hdeaf⟩ := hfit
  rw [InstantsFit]
  cases period with
  | work us =>
    obtain ⟨hbusy', hdeaf'⟩ := Instants.mk.inj h
    rw [hbusy', hdeaf']
    exact ⟨hle, hdeaf⟩
  | recovery us =>
    obtain ⟨hbusy', hdeaf'⟩ := Instants.mk.inj h
    rw [hbusy', hdeaf']
    exact ⟨Nat.zero_le _, hle⟩
  | waking us =>
    obtain ⟨hbusy', hdeaf'⟩ := Instants.mk.inj h
    rw [hbusy', hdeaf']
    exact ⟨hbusy, hle⟩

/-- Both instants of a part that listens have come. -/
theorem fit_of_listening (hlisten : Listening clock part) : part.InstantsFit := by
  obtain ⟨-, halert, hidle⟩ := hlisten
  have hlast := clock.now_le
  have hrecovered := of_decide_eq_false halert
  have hready := of_decide_eq_false (Bool.or_eq_false_iff.1 hidle).2
  exact ⟨by omega, by omega⟩

/-! ## Data for programs -/

/-- Bytes that a program can have at once. -/
def atHand (part : Part) : Nat :=
  part.writeFifo.length + part.dma.elim 0 fun claim => claim.block.length

/-- The work that a program of `expected` bytes begins of which `got` are there already, if the
latch allows it and the others are at hand. -/
def programs (expected got : Nat) (part : Part) : Option Period :=
  if part.writeEnabled = true ∧ expected ≤ got + part.atHand then
    some (.work part.config.pageProgramTime)
  else none

/-- The work that begins when a program that waits for data looks for it. -/
def resumes (part : Part) : Option Period :=
  match part.transaction with
  | some (.streaming _ expected data) => part.programs expected data.length
  | _ => none

theorem length_pull_lt_iff (expected : Nat) (data : List UInt8) (part : Part) :
    (pull expected data part).1.length < expected ↔ data.length + part.atHand < expected := by
  rw [pull, atHand]
  cases part.dma with
  | none =>
    simp only [List.length_append, List.length_take, Option.elim_none]
    omega
  | some claim =>
    simp only [List.length_append, List.length_take, Option.elim_some]
    omega

theorem pull_keeps (expected : Nat) (data : List UInt8) (part : Part) :
    (pull expected data part).2.instants = part.instants ∧
      (pull expected data part).2.writeEnabled = part.writeEnabled ∧
      (pull expected data part).2.config = part.config := by
  rw [pull]
  cases part.dma with
  | none => exact ⟨rfl, rfl, rfl⟩
  | some claim => exact ⟨rfl, rfl, rfl⟩

/-- Bytes that have been pulled are programmed under the latch, which begins work. -/
theorem instants_program_pull {expected : Nat} {data : List UInt8}
    (hready : ¬(pull expected data part).1.length < expected) (addr : Nat) (bytes : List UInt8) :
    (program clock addr bytes (pull expected data part).2).instants =
      part.instants.begin clock.now (part.programs expected data.length) := by
  obtain ⟨hinstants, hlatch, hconfig⟩ := pull_keeps expected data part
  rw [length_pull_lt_iff, Nat.not_lt] at hready
  rw [program, hlatch, programs]
  by_cases henabled : part.writeEnabled = true
  · rw [if_pos henabled, if_pos ⟨henabled, hready⟩, ← hinstants, ← hconfig]
    rfl
  · rw [if_neg henabled, if_neg fun h => henabled h.1]
    exact hinstants

theorem programs_of_lt {expected : Nat} {data : List UInt8}
    (hshort : (pull expected data part).1.length < expected) :
    part.programs expected data.length = none :=
  if_neg fun h => absurd h.2 (Nat.not_le.2 ((length_pull_lt_iff expected data part).1 hshort))

theorem resumes_of_streaming {addr expected : Nat} {data : List UInt8}
    (hwaits : part.transaction = some (.streaming addr expected data)) :
    part.resumes = part.programs expected data.length := by
  rw [resumes, hwaits]

theorem Over.resumes (h : part.Over) : part.resumes = none := by
  rw [Part.resumes]
  split
  · rename_i addr expected data hwaits
    exact absurd hwaits (h addr expected data)
  · rfl

theorem exists_streaming_of_not_over (h : ¬part.Over) :
    ∃ addr expected data, part.transaction = some (.streaming addr expected data) := by
  simpa only [Over, ne_eq, not_forall, not_not] using h

theorem instants_feed (clock : Clock) (part : Part) :
    (feed clock part).instants = part.instants.begin clock.now part.resumes := by
  by_cases hover : part.Over
  · rw [hover.feed, hover.resumes]
    rfl
  obtain ⟨addr, expected, data, hwaits⟩ := exists_streaming_of_not_over hover
  rw [feed_of_streaming hwaits, receive, resumes_of_streaming hwaits]
  by_cases hshort : (pull expected data part).1.length < expected
  · rw [if_pos hshort, programs_of_lt hshort]
    exact (pull_keeps expected data part).1
  · rw [if_neg hshort]
    exact instants_program_pull hshort addr _

/-- A program that still waits has begun nothing. -/
theorem resumes_of_waiting (h : ¬(feed clock part).Over) : part.resumes = none := by
  by_cases hover : part.Over
  · exact hover.resumes
  obtain ⟨addr, expected, data, hwaits⟩ := exists_streaming_of_not_over hover
  rw [feed_of_streaming hwaits, receive] at h
  by_cases hshort : (pull expected data part).1.length < expected
  · rw [resumes_of_streaming hwaits, programs_of_lt hshort]
  · rw [if_neg hshort] at h
    exact absurd (over_of_done rfl) h

/-! ## Commands -/

/-- The period that a command begins which the part carries out. -/
def starts (command : Command) (armed : Bool) (part : Part) : Option Period :=
  match command.instruction with
  | .writeStatus _ => if part.writeEnabled then some (.work part.config.writeStatusTime) else none
  | .erase unit => if part.writeEnabled then some (.work (part.eraseTime unit)) else none
  | .program =>
    if command.format = .addressProgramData then part.programs command.dataLength 0 else none
  | .reset => if armed then some (.recovery part.config.resetRecoveryTime) else none
  | _ => none

/-- The period that a command begins. -/
def begins (clock : Clock) (command : Command) (part : Part) : Option Period :=
  if part.ignores clock command then none
  else if part.poweredDown then some (.waking part.config.releaseTime)
  else part.starts command part.resetArmed

/-- A part that listens carries every command out. -/
theorem begins_of_listening (hlisten : Listening clock part) (command : Command) :
    part.begins clock command = part.starts command part.resetArmed := by
  rw [begins, Watched.ignores_of_hears (.inl hlisten), hlisten.awake]
  rfl

/-- What a part at work carries out begins nothing. -/
theorem starts_of_answers (hanswers : answersWhileBusy command.instruction = true) (armed : Bool)
    (part : Part) : part.starts command armed = none := by
  rw [starts]
  cases hinstruction : command.instruction with
  | writeStatus | program | erase | reset =>
    rw [hinstruction] at hanswers
    cases hanswers
  | _ => rfl

/-- Only a part that listens begins a period, or one that is asleep. -/
theorem listening_of_begins {period : Period} (hawake : part.poweredDown = false)
    (h : part.begins clock command = some period) : Listening clock part := by
  have hpower : ¬part.poweredDown = true := Bool.eq_false_iff.1 hawake
  have hsome {armed : Bool} (hstarts : part.starts command armed = some period) :
      ¬answersWhileBusy command.instruction = true := by
    intro hanswers
    rw [starts_of_answers hanswers] at hstarts
    cases hstarts
  rw [begins] at h
  by_cases hignores : part.ignores clock command = true
  · rw [if_pos hignores] at h
    cases h
  rw [if_neg hignores, if_neg hpower] at h
  rw [ignores, if_neg hpower] at hignores
  by_cases hdeaf : part.deaf clock = true
  · rw [if_pos hdeaf, bne_iff_ne, ne_eq, Decidable.not_not] at hignores
    exact absurd (by rw [hignores]; rfl) (hsome h)
  · rw [if_neg hdeaf, Bool.and_eq_true, Bool.not_eq_true'] at hignores
    refine ⟨hawake, Bool.eq_false_iff.2 hdeaf, Bool.eq_false_iff.2 fun hbusy => ?_⟩
    exact hignores ⟨hbusy, Bool.eq_false_iff.2 (hsome h)⟩

theorem instants_ignore (command : Command) (part : Part) :
    (ignore command part).2.instants = part.instants := by
  obtain ⟨value, readFifo, hignore⟩ := ignore_eq command part
  rw [hignore]
  rfl

theorem instants_writeStatus (clock : Clock) (command : Command) (register : StatusRegister)
    (part : Part) :
    (writeStatus clock command register part).instants = part.instants.begin clock.now
      (if part.writeEnabled then some (.work part.config.writeStatusTime) else none) := by
  rw [writeStatus]
  split
  · cases register with
    | one => rfl
    | two => rfl
    | three => rfl
  · rfl

theorem instants_eraseUnit (clock : Clock) (addr : Nat) (unit : EraseUnit) (part : Part) :
    (eraseUnit clock addr unit part).instants = part.instants.begin clock.now
      (if part.writeEnabled then some (.work (part.eraseTime unit)) else none) := by
  have herase (addr len time : Nat) : (erase clock addr len time part).instants =
      part.instants.begin clock.now (if part.writeEnabled then some (.work time) else none) := by
    rw [erase]
    split <;> rfl
  cases unit with
  | sector => exact herase _ _ _
  | block32 => exact herase _ _ _
  | block64 => exact herase _ _ _
  | chip => exact herase _ _ _

theorem instants_startProgram (clock : Clock) (command : Command) (part : Part) :
    (startProgram clock command part).2.instants = part.instants.begin clock.now
      (if command.format = .addressProgramData then part.programs command.dataLength 0
        else none) := by
  unfold startProgram
  split
  · dsimp only
    split
    · rename_i hshort
      rw [← List.length_nil (α := UInt8), programs_of_lt hshort]
      exact (pull_keeps command.dataLength [] part).1
    · rename_i hready
      exact instants_program_pull hready command.address _
  · rfl

theorem instants_fetch (command : Command) (part : Part) :
    (fetch command part).2.instants = part.instants := by
  rw [fetch]
  split <;> rfl

theorem instants_perform (clock : Clock) (command : Command) (armed : Bool) (part : Part) :
    (perform clock command armed part).2.instants =
      part.instants.begin clock.now (part.starts command armed) := by
  unfold perform starts
  cases command.instruction with
  | writeStatus register => exact instants_writeStatus clock command register part
  | program => exact instants_startProgram clock command part
  | erase unit => exact instants_eraseUnit clock command.address unit part
  | reset =>
    cases armed with
    | true => rfl
    | false => rfl
  | read =>
    have hfetch := instants_fetch command part
    dsimp only
    split
    all_goals
      rename_i hrun
      rw [hrun] at hfetch
      exact hfetch
  | _ => rfl

theorem instants_execute (clock : Clock) (command : Command) (part : Part) :
    (execute clock command part).2.instants =
      part.instants.begin clock.now (part.begins clock command) := by
  rw [begins]
  by_cases hignores : part.ignores clock command = true
  · obtain ⟨resetArmed, hexecute⟩ := execute_of_ignores hignores
    rw [if_pos hignores, hexecute]
    exact instants_ignore command _
  rw [if_neg hignores, execute]
  rw [ignores] at hignores
  by_cases hpower : part.poweredDown = true
  · rw [if_pos hpower, bne_iff_ne, ne_eq, Decidable.not_not] at hignores
    rw [if_pos hpower, if_pos hpower, if_pos hignores]
    rfl
  rw [if_neg hpower] at hignores
  rw [if_neg hpower, if_neg hpower]
  by_cases hdeaf : part.deaf clock = true
  · rw [if_pos hdeaf, bne_iff_ne, ne_eq, Decidable.not_not] at hignores
    rw [if_pos hdeaf, if_pos hignores, starts, hignores]
    rfl
  · rw [if_neg hdeaf] at hignores ⊢
    have hheard : (busy clock { part with resetArmed := false } &&
      !answersWhileBusy command.instruction) = false := Bool.eq_false_iff.2 hignores
    simp only [hheard]
    exact instants_perform clock command part.resetArmed { part with resetArmed := false }

/-- A command that the controller can drive does to the instants what it does to the part. -/
theorem instants_issue (hmode : command.mode.check part.features = .ok ()) (clock : Clock) :
    (issue clock command part).2.instants =
      part.instants.begin clock.now (part.begins clock command) := by
  have hexecute := instants_execute clock command (part.logged command)
  rw [issue_eq_execute hmode]
  cases hrun : execute clock command (part.logged command) with
  | mk outcome result =>
    rw [hrun] at hexecute
    cases outcome with
    | ok transaction => exact hexecute
    | error failure => exact hexecute

/-! ## Times -/

/-- The times of a configuration. -/
def Config.times (config : Config) : List Nat :=
  [config.pageProgramTime, config.sectorEraseTime, config.block32EraseTime,
    config.block64EraseTime, config.chipEraseTime, config.writeStatusTime,
    config.resetRecoveryTime, config.releaseTime]

theorem eraseTime_mem_times (part : Part) (unit : EraseUnit) :
    part.eraseTime unit ∈ part.config.times := by
  cases unit <;> simp [eraseTime, Config.times]

theorem time_of_programs {expected got : Nat} {period : Period}
    (h : part.programs expected got = some period) : period.time ∈ part.config.times := by
  rw [programs] at h
  split at h
  · cases h
    simp [Period.time, Config.times]
  · cases h

theorem time_of_resumes {period : Period} (h : part.resumes = some period) :
    period.time ∈ part.config.times := by
  rw [resumes] at h
  split at h
  · exact time_of_programs h
  · cases h

theorem time_of_starts {armed : Bool} {period : Period}
    (h : part.starts command armed = some period) : period.time ∈ part.config.times := by
  rw [starts] at h
  split at h
  · split at h
    · cases h
      simp [Period.time, Config.times]
    · cases h
  · split at h
    · cases h
      exact eraseTime_mem_times part _
    · cases h
  · split at h
    · exact time_of_programs h
    · cases h
  · split at h
    · cases h
      simp [Period.time, Config.times]
    · cases h
  · cases h

theorem time_of_begins {period : Period} (h : part.begins clock command = some period) :
    period.time ∈ part.config.times := by
  rw [begins] at h
  split at h
  · cases h
  split at h
  · cases h
    simp [Period.time, Config.times]
  · exact time_of_starts h

end Part

end CardReader
