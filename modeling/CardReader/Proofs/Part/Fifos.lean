import CardReader.Proofs.Part.Deliveries
import CardReader.Proofs.Watched

/-!
# How much the FIFOs hold

The write FIFO never holds more than it has room for: bytes come in only where they fit, and
programs, flushes and resets only take them out.  The read FIFO is filled anew by every read, and
the array gives it no more than it has room for.  A read that the part ignores, though, leaves as
many bytes there as were asked for, of the level to which the lines float.

What is proved here:

* `drawn_feed` and its companions — a program takes bytes out of the write FIFO and leaves the read
  FIFO alone;
* `supplied_issue` — a command does so too, or puts new bytes into the read FIFO;
* `Step.levels` — what a step does to the two FIFOs, and `Step.floods_of_supplies` — which steps put
  too much into the read FIFO;
* `fifos_of_run` — along a run the write FIFO keeps its depth, and the read FIFO exceeds its own if
  and only if an ignored read has put too much in and too little has been taken out since;
* `readFifo_overfilled` — a part that is asleep leaves seventeen bytes in a FIFO of sixteen.
-/

namespace CardReader

open Flash

namespace Part

variable {clock : Clock} {part before after : Part} {command : Command}

/-! ## Data for programs -/

/-- Bytes were taken out of the write FIFO, if any, and the read FIFO is as it was. -/
structure Drawn (before after : Part) : Prop where
  write_le : after.writeFifo.length ≤ before.writeFifo.length
  read_eq : after.readFifo = before.readFifo

theorem Drawn.refl (part : Part) : Drawn part part := ⟨Nat.le_refl _, rfl⟩

theorem Drawn.trans {a b c : Part} (hab : Drawn a b) (hbc : Drawn b c) : Drawn a c :=
  ⟨Nat.le_trans hbc.write_le hab.write_le, hbc.read_eq.trans hab.read_eq⟩

theorem drawn_pull (expected : Nat) (data : List UInt8) (part : Part) :
    Drawn part (pull expected data part).2 := by
  have hle : (part.writeFifo.drop (expected - data.length)).length ≤ part.writeFifo.length := by
    rw [List.length_drop]
    exact Nat.sub_le _ _
  rw [pull]
  cases part.dma with
  | none => exact ⟨hle, rfl⟩
  | some claim => exact ⟨hle, rfl⟩

theorem drawn_program (clock : Clock) (addr : Nat) (data : List UInt8) (part : Part) :
    Drawn part (program clock addr data part) := by
  rw [program]
  split
  · exact ⟨Nat.le_refl _, rfl⟩
  · exact .refl part

theorem drawn_startProgram (clock : Clock) (command : Command) (part : Part) :
    Drawn part (startProgram clock command part).2 := by
  have hpull := drawn_pull command.dataLength [] part
  unfold startProgram
  split
  · dsimp only
    split
    · exact hpull
    · exact hpull.trans (drawn_program _ _ _ _)
  · exact .refl part

theorem drawn_feed (clock : Clock) (part : Part) : Drawn part (feed clock part) := by
  unfold feed
  split
  · rename_i addr expected data _
    have hpull := drawn_pull expected data part
    dsimp only
    split
    · exact ⟨hpull.write_le, hpull.read_eq⟩
    · have hprogram := hpull.trans (drawn_program clock addr (pull expected data part).1 _)
      exact ⟨hprogram.write_le, hprogram.read_eq⟩
  · exact .refl part

theorem drawn_writeStatus (clock : Clock) (command : Command) (register : StatusRegister)
    (part : Part) : Drawn part (writeStatus clock command register part) := by
  rw [writeStatus]
  split
  · cases register with
    | one => exact ⟨Nat.le_refl _, rfl⟩
    | two => exact ⟨Nat.le_refl _, rfl⟩
    | three => exact ⟨Nat.le_refl _, rfl⟩
  · exact .refl part

theorem drawn_eraseUnit (clock : Clock) (addr : Nat) (unit : EraseUnit) (part : Part) :
    Drawn part (eraseUnit clock addr unit part) := by
  have herase (addr len time : Nat) : Drawn part (erase clock addr len time part) := by
    rw [erase]
    split
    · exact ⟨Nat.le_refl _, rfl⟩
    · exact .refl part
  cases unit with
  | sector => exact herase _ _ _
  | block32 => exact herase _ _ _
  | block64 => exact herase _ _ _
  | chip => exact herase _ _ _

theorem drawn_pollDone (clock : Clock) (part : Part) : Drawn part (pollDone clock part).2 := by
  have hfeed := drawn_feed clock part
  rw [pollDone]
  split
  · exact .refl part
  · dsimp only
    split <;> exact hfeed

theorem drawn_dmaStart (clock : Clock) (channel : Nat) (block : List UInt8) (part : Part) :
    Drawn part (dmaStart clock channel block part).2 := by
  rw [dmaStart]
  split
  · rename_i claim _
    split
    · obtain ⟨hwrite, hread⟩ := drawn_feed clock { part with dma := some { claim with block } }
      exact ⟨hwrite, hread⟩
    · exact .refl part
  · exact .refl part

theorem drawn_dmaAcquire (channel : Nat) (part : Part) :
    Drawn part (dmaAcquire channel part).2 := by
  rw [dmaAcquire]
  split
  · exact .refl part
  split
  · exact .refl part
  · exact ⟨Nat.le_refl _, rfl⟩

theorem drawn_dmaRelease (channel : Nat) (part : Part) :
    Drawn part (dmaRelease channel part) := by
  rw [dmaRelease]
  split
  · split
    · exact ⟨Nat.le_refl _, rfl⟩
    · exact .refl part
  · exact .refl part

/-! ## Commands -/

/-- How many bytes a command that is carried out leaves in the read FIFO, if it replaces what is
there: a read fills it with what it has room for, and a reset that is armed empties it. -/
def renews (command : Command) (armed : Bool) (part : Part) : Option Nat :=
  if command.instruction = .read then
    if command.dataLength ≤ part.config.readDepth then some command.dataLength else none
  else if command.instruction = .reset ∧ armed = true then some 0
  else none

/-- How many bytes a command leaves in the read FIFO, if it replaces what is there.  A read that is
ignored leaves as many as were asked for. -/
def supplies (clock : Clock) (command : Command) (part : Part) : Option Nat :=
  if part.ignores clock command then
    if command.format.fillsReadFifo then some command.dataLength else none
  else part.renews command part.resetArmed

/-- What becomes of the FIFOs: no bytes come into the write FIFO, and the read FIFO holds what it
held, or new bytes. -/
structure Supplied (supply : Option Nat) (before after : Part) : Prop where
  write_le : after.writeFifo.length ≤ before.writeFifo.length
  kept : supply = none → after.readFifo = before.readFifo
  filled : ∀ count, supply = some count → after.readFifo.length = count

theorem Drawn.supplied (h : Drawn before after) : Supplied none before after :=
  ⟨h.write_le, fun _ => h.read_eq,
    fun count hcount => absurd hcount.symm (Option.some_ne_none count)⟩

theorem supplied_some {count : Nat} (hwrite : after.writeFifo.length ≤ before.writeFifo.length)
    (hread : after.readFifo.length = count) : Supplied (some count) before after :=
  ⟨hwrite, fun hnone => absurd hnone (Option.some_ne_none count),
    fun _ hcount => hread.trans (Option.some.inj hcount)⟩

/-- A command that is carried out leaves no more in the read FIFO than it has room for. -/
theorem renews_le {armed : Bool} {count : Nat} (h : part.renews command armed = some count) :
    count ≤ part.config.readDepth := by
  rw [renews] at h
  split at h
  · split at h
    · rename_i hfits
      rwa [← Option.some.inj h]
    · cases h
  · split at h
    · rw [← Option.some.inj h]
      exact Nat.zero_le _
    · cases h

/-- Commands other than reads and resets do not reach the read FIFO. -/
theorem renews_of_ne (hread : command.instruction ≠ .read) (hreset : command.instruction ≠ .reset)
    (armed : Bool) (part : Part) : part.renews command armed = none := by
  rw [renews, if_neg hread, if_neg fun h => hreset h.1]

theorem supplied_ignore (command : Command) (part : Part) :
    Supplied (if command.format.fillsReadFifo then some command.dataLength else none) part
      (ignore command part).2 := by
  rw [ignore, float]
  dsimp only
  split
  · exact supplied_some (Nat.le_refl _) List.length_replicate
  · exact (Drawn.refl part).supplied

theorem supplied_fetch (hread : command.instruction = .read) (armed : Bool) (part : Part) :
    Supplied (part.renews command armed) part (fetch command part).2 := by
  rw [renews, if_pos hread, fetch]
  by_cases hfits : command.dataLength ≤ part.config.readDepth
  · rw [if_pos hfits, if_neg (Nat.not_lt.2 hfits)]
    exact supplied_some (Nat.le_refl _) (Cells.length_slice _ _ _)
  · rw [if_neg hfits, if_pos (Nat.lt_of_not_le hfits)]
    exact (Drawn.refl part).supplied

theorem supplied_perform (clock : Clock) (command : Command) (armed : Bool) (part : Part) :
    Supplied (part.renews command armed) part (perform clock command armed part).2 := by
  have hnone {instruction : Instruction} (h : command.instruction = instruction)
      (hread : instruction ≠ .read) (hreset : instruction ≠ .reset) :
      part.renews command armed = none :=
    renews_of_ne (h ▸ hread) (h ▸ hreset) armed part
  unfold perform
  cases hinstruction : command.instruction with
  | read =>
    have hfetch := supplied_fetch hinstruction armed part
    dsimp only
    split
    all_goals
      rename_i hrun
      rw [hrun] at hfetch
      exact hfetch
  | reset =>
    rw [renews, hinstruction, if_neg (by decide)]
    cases armed with
    | true => exact supplied_some (Nat.zero_le _) rfl
    | false => exact (Drawn.refl part).supplied
  | writeStatus register =>
    rw [hnone hinstruction (by simp) (by simp)]
    exact (drawn_writeStatus clock command register part).supplied
  | program =>
    rw [hnone hinstruction (by simp) (by simp)]
    exact (drawn_startProgram clock command part).supplied
  | erase unit =>
    rw [hnone hinstruction (by simp) (by simp)]
    exact (drawn_eraseUnit clock command.address unit part).supplied
  | _ =>
    rw [hnone hinstruction (by simp) (by simp)]
    exact Drawn.supplied ⟨Nat.le_refl _, rfl⟩

theorem supplied_execute (clock : Clock) (command : Command) (part : Part) :
    Supplied (part.supplies clock command) part (execute clock command part).2 := by
  rw [supplies]
  by_cases hignores : part.ignores clock command = true
  · obtain ⟨resetArmed, hexecute⟩ := execute_of_ignores hignores
    obtain ⟨hwrite, hkept, hfilled⟩ := supplied_ignore command { part with resetArmed }
    rw [if_pos hignores, hexecute]
    exact ⟨hwrite, hkept, hfilled⟩
  rw [if_neg hignores, execute]
  rw [ignores] at hignores
  by_cases hpower : part.poweredDown = true
  · rw [if_pos hpower, bne_iff_ne, ne_eq, Decidable.not_not] at hignores
    rw [if_pos hpower, if_pos hignores,
      renews_of_ne (by rw [hignores]; decide) (by rw [hignores]; decide)]
    exact Drawn.supplied ⟨Nat.le_refl _, rfl⟩
  rw [if_neg hpower] at hignores ⊢
  by_cases hdeaf : part.deaf clock = true
  · rw [if_pos hdeaf, bne_iff_ne, ne_eq, Decidable.not_not] at hignores
    rw [if_pos hdeaf, if_pos hignores,
      renews_of_ne (by rw [hignores]; decide) (by rw [hignores]; decide)]
    exact (Drawn.refl part).supplied
  rw [if_neg hdeaf] at hignores ⊢
  obtain ⟨hwrite, hkept, hfilled⟩ :=
    supplied_perform clock command part.resetArmed { part with resetArmed := false }
  have hheard : (busy clock { part with resetArmed := false } &&
    !answersWhileBusy command.instruction) = false := Bool.eq_false_iff.2 hignores
  simp only [hheard]
  exact ⟨hwrite, hkept, hfilled⟩

/-- A command that the controller can drive does to the FIFOs what it does to the part. -/
theorem supplied_issue (hmode : command.mode.check part.features = .ok ()) (clock : Clock) :
    Supplied (part.supplies clock command) part (issue clock command part).2 := by
  obtain ⟨hwrite, hkept, hfilled⟩ := supplied_execute clock command (part.logged command)
  rw [issue_eq_execute hmode]
  cases hrun : execute clock command (part.logged command) with
  | mk outcome result =>
    rw [hrun] at hwrite hkept hfilled
    cases outcome with
    | ok transaction => exact ⟨hwrite, hkept, hfilled⟩
    | error failure => exact ⟨hwrite, hkept, hfilled⟩

/-! ## Steps -/

theorem config_make (clock : Clock) (part : Part) (move : Move) :
    (move.make clock part).config = part.config := by
  cases move with
  | write data => exact congrArg Shape.config (shape_queue clock data part)
  | take count => exact congrArg Shape.config (shape_take count part)
  | issue command => exact congrArg Shape.config (shape_issue clock command part)
  | poll => exact congrArg Shape.config (shape_pollDone clock part)
  | start channel block => exact congrArg Shape.config (shape_dmaStart clock channel block part)
  | acquire channel =>
    show (dmaAcquire channel part).2.config = _
    rw [dmaAcquire]
    split
    · rfl
    · split <;> rfl
  | release channel =>
    show (dmaRelease channel part).config = _
    rw [dmaRelease]
    split
    · split <;> rfl
    · rfl
  | setParams | flush | switch | idle | pause => rfl

namespace Step

/-- How many bytes a step leaves in the read FIFO, if it replaces what is there. -/
def supplies (step : Step) : Option Nat :=
  match step.move with
  | .flush => some 0
  | .issue command =>
    if (command.mode.check step.part.features).isOk then step.part.supplies step.clock command
    else none
  | _ => none

/-- How many bytes a step takes out of the read FIFO. -/
def takes (step : Step) : Nat :=
  match step.move with
  | .take count => if count ≤ step.part.readFifo.length then count else 0
  | _ => 0

/-- The step issues a read of `count` bytes, which the part ignores. -/
def Floods (step : Step) (count : Nat) : Prop :=
  ∃ command, step.move = .issue command ∧ command.mode.check step.part.features = .ok () ∧
    step.part.ignores step.clock command = true ∧ command.format.fillsReadFifo = true ∧
    command.dataLength = count

/-- What a step does to the read FIFO, and that it keeps the write FIFO to its depth. -/
structure Levels (step : Step) : Prop where
  kept : step.supplies = none →
    step.after.readFifo.length + step.takes = step.part.readFifo.length
  filled : ∀ count, step.supplies = some count → step.after.readFifo.length = count
  write_le : step.part.writeFifo.length ≤ step.part.config.writeDepth →
    step.after.writeFifo.length ≤ step.part.config.writeDepth

theorem levels_of_none {step : Step} (hsupplies : step.supplies = none)
    (hread : step.after.readFifo.length + step.takes = step.part.readFifo.length)
    (hwrite : step.part.writeFifo.length ≤ step.part.config.writeDepth →
      step.after.writeFifo.length ≤ step.part.config.writeDepth) : step.Levels :=
  ⟨fun _ => hread, fun count hcount =>
    absurd (hcount.symm.trans hsupplies) (Option.some_ne_none count), hwrite⟩

theorem levels_of_drawn {step : Step} (hsupplies : step.supplies = none) (htakes : step.takes = 0)
    (h : Drawn step.part step.after) : step.Levels := by
  refine levels_of_none hsupplies ?_ (Nat.le_trans h.write_le)
  rw [htakes, h.read_eq]
  rfl

theorem levels_issue {step : Step} {command : Command} (hmove : step.move = .issue command) :
    step.Levels := by
  have hafter : step.after = (issue step.clock command step.part).2 := by
    rw [after, hmove]
    rfl
  have htakes : step.takes = 0 := by
    rw [takes, hmove]
  cases hmode : command.mode.check step.part.features with
  | error failure =>
    have hsupplies : step.supplies = none := by
      rw [supplies, hmove]
      exact if_neg (by rw [hmode]; exact Bool.false_ne_true)
    rw [issue_of_refused hmode] at hafter
    exact levels_of_drawn hsupplies htakes (hafter ▸ ⟨Nat.le_refl _, rfl⟩)
  | ok =>
    have hsupplies : step.supplies = step.part.supplies step.clock command := by
      rw [supplies, hmove]
      exact if_pos (by rw [hmode]; rfl)
    obtain ⟨hwrite, hkept, hfilled⟩ := supplied_issue hmode step.clock
    rw [← hsupplies, ← hafter] at hkept hfilled
    rw [← hafter] at hwrite
    refine ⟨fun hnone => ?_, hfilled, Nat.le_trans hwrite⟩
    rw [htakes, hkept hnone]
    rfl

theorem levels_write (clock : Clock) (part : Part) (data : List UInt8) :
    Levels ⟨clock, part, .write data⟩ := by
  have hafter : after ⟨clock, part, .write data⟩ = (queue clock data part).2 := rfl
  rw [queue] at hafter
  by_cases hfull : part.config.writeDepth - part.writeFifo.length < data.length
  · rw [if_pos hfull] at hafter
    exact levels_of_drawn rfl rfl (hafter ▸ .refl part)
  · rw [if_neg hfull] at hafter
    obtain ⟨hwrite, hread⟩ := drawn_feed clock { part with writeFifo := part.writeFifo ++ data }
    refine levels_of_none rfl ?_ fun hroom => ?_
    · rw [hafter]
      exact congrArg List.length hread
    · rw [hafter]
      rw [List.length_append] at hwrite
      exact Nat.le_trans hwrite (by dsimp only at hroom ⊢; omega)

theorem levels_take (clock : Clock) (part : Part) (count : Nat) :
    Levels ⟨clock, part, .take count⟩ := by
  have hafter : after ⟨clock, part, .take count⟩ = (Part.take count part).2 := rfl
  have htaken : (part.readFifo.take count).toArray.size = count ↔
      count ≤ part.readFifo.length := by
    rw [List.size_toArray, List.length_take]
    omega
  rw [Part.take] at hafter
  by_cases hfits : count ≤ part.readFifo.length
  · rw [dif_pos (htaken.2 hfits)] at hafter
    refine levels_of_none rfl ?_ fun hroom => ?_
    · rw [hafter, show takes ⟨clock, part, .take count⟩ = count from if_pos hfits,
        List.length_drop]
      exact Nat.sub_add_cancel hfits
    · rw [hafter]
      exact hroom
  · rw [dif_neg fun h => hfits (htaken.1 h)] at hafter
    exact levels_of_drawn rfl (if_neg hfits) (hafter ▸ .refl part)

/-- Every step puts new bytes into the read FIFO or takes some out, and keeps the write FIFO to its
depth. -/
theorem levels (step : Step) : step.Levels := by
  obtain ⟨clock, part, move⟩ := step
  cases move with
  | issue command => exact levels_issue rfl
  | write data => exact levels_write clock part data
  | take count => exact levels_take clock part count
  | poll => exact levels_of_drawn rfl rfl (drawn_pollDone clock part)
  | start channel block => exact levels_of_drawn rfl rfl (drawn_dmaStart clock channel block part)
  | acquire channel => exact levels_of_drawn rfl rfl (drawn_dmaAcquire channel part)
  | release channel => exact levels_of_drawn rfl rfl (drawn_dmaRelease channel part)
  | flush =>
    exact ⟨fun hnone => absurd hnone (Option.some_ne_none 0),
      fun count hcount => Option.some.inj hcount, fun _ => Nat.zero_le _⟩
  | setParams | switch | idle | pause => exact levels_of_drawn rfl rfl ⟨Nat.le_refl _, rfl⟩

/-- Only a read that is ignored puts more into the read FIFO than there is room for. -/
theorem floods_of_supplies {step : Step} {count : Nat} (h : step.supplies = some count)
    (hlarge : step.part.config.readDepth < count) : step.Floods count := by
  obtain ⟨clock, part, move⟩ := step
  cases move with
  | flush =>
    cases h
    exact absurd hlarge (Nat.not_lt_zero _)
  | issue command =>
    simp only [supplies] at h
    split at h
    · rename_i hok
      have hmode : command.mode.check part.features = .ok () := by
        cases hcheck : command.mode.check part.features with
        | ok => rfl
        | error failure =>
          rw [hcheck] at hok
          cases hok
      rw [Part.supplies] at h
      split at h
      · rename_i hignores
        split at h
        · rename_i hfills
          exact ⟨command, rfl, hmode, hignores, hfills, Option.some.inj h⟩
        · cases h
      · exact absurd hlarge (Nat.not_lt.2 (renews_le h))
    · cases h
  | _ => cases h

theorem supplies_of_floods {step : Step} {count : Nat} (h : step.Floods count) :
    step.supplies = some count := by
  obtain ⟨command, hmove, hmode, hignores, hfills, hlength⟩ := h
  rw [supplies, hmove]
  dsimp only
  rw [if_pos (by rw [hmode]; rfl), Part.supplies, if_pos hignores, if_pos hfills, hlength]

end Step

/-! ## Runs -/

/-- How many bytes some steps take out of the read FIFO. -/
def taken : List Step → Nat
  | [] => 0
  | step :: rest => step.takes + taken rest

/-- The read FIFO, with `level` bytes in it, gets no new bytes in some steps, and more than `depth`
are left in it after them. -/
def Lasts (depth level : Nat) (later : List Step) : Prop :=
  (∀ step ∈ later, step.supplies = none) ∧ depth + taken later < level

/-- In some steps more is put into the read FIFO by an ignored read than it has room for, and too
little is taken out after that. -/
def Flooded (depth : Nat) (run : List Step) : Prop :=
  ∃ earlier step later count, run = earlier ++ step :: later ∧ step.Floods count ∧
    Lasts depth count later

theorem lasts_cons {depth level : Nat} {step : Step} {rest : List Step} :
    Lasts depth level (step :: rest) ↔
      step.supplies = none ∧ Lasts depth (level - step.takes) rest := by
  rw [Lasts, Lasts, List.forall_mem_cons, taken]
  constructor
  · rintro ⟨⟨hfirst, hrest⟩, hlevel⟩
    exact ⟨hfirst, hrest, by omega⟩
  · rintro ⟨hfirst, hrest, hlevel⟩
    exact ⟨⟨hfirst, hrest⟩, by omega⟩

theorem flooded_cons {depth : Nat} {step : Step} {rest : List Step} :
    Flooded depth (step :: rest) ↔
      (∃ count, step.Floods count ∧ Lasts depth count rest) ∨ Flooded depth rest := by
  constructor
  · rintro ⟨earlier, flood, later, count, hrun, hfloods, hlasts⟩
    cases earlier with
    | nil =>
      cases hrun
      exact .inl ⟨count, hfloods, hlasts⟩
    | cons first others =>
      cases hrun
      exact .inr ⟨others, flood, later, count, rfl, hfloods, hlasts⟩
  · rintro (⟨count, hfloods, hlasts⟩ | ⟨earlier, flood, later, count, rfl, hfloods, hlasts⟩)
    · exact ⟨[], step, rest, count, rfl, hfloods, hlasts⟩
    · exact ⟨step :: earlier, flood, later, count, rfl, hfloods, hlasts⟩

/-- What a step does to the level of the read FIFO, seen from the steps that follow it. -/
theorem lasts_or_floods {step : Step} {rest : List Step} {depth : Nat}
    (hdepth : step.part.config.readDepth = depth) :
    Lasts depth step.after.readFifo.length rest ↔
      Lasts depth step.part.readFifo.length (step :: rest) ∨
        ∃ count, step.Floods count ∧ Lasts depth count rest := by
  obtain ⟨hkept, hfilled, -⟩ := step.levels
  rw [lasts_cons]
  cases hsupplies : step.supplies with
  | none =>
    have hlevel : step.part.readFifo.length - step.takes = step.after.readFifo.length := by
      rw [← hkept hsupplies, Nat.add_sub_cancel]
    rw [hlevel]
    constructor
    · exact fun hlasts => .inl ⟨rfl, hlasts⟩
    · rintro (⟨-, hlasts⟩ | ⟨count, hfloods, -⟩)
      · exact hlasts
      · cases hsupplies.symm.trans (Step.supplies_of_floods hfloods)
  | some count =>
    rw [hfilled count hsupplies]
    constructor
    · intro hlasts
      have hlarge : step.part.config.readDepth < count := by
        rw [hdepth]
        exact Nat.lt_of_le_of_lt (Nat.le_add_right _ _) hlasts.2
      exact .inr ⟨count, Step.floods_of_supplies hsupplies hlarge, hlasts⟩
    · rintro (⟨hnone, -⟩ | ⟨flood, hfloods, hlasts⟩)
      · cases hnone
      · cases hsupplies.symm.trans (Step.supplies_of_floods hfloods)
        exact hlasts

/-- After some moves the read FIFO holds too much if it did so before and has not been drained, or
if an ignored read has put too much in since. -/
theorem readDepth_lt_iff (moves : List Move) : ∀ (clock : Clock) (part : Part),
    part.config.readDepth < (afterMoves clock part moves).2.readFifo.length ↔
      Lasts part.config.readDepth part.readFifo.length (steps clock part moves) ∨
        Flooded part.config.readDepth (steps clock part moves) := by
  induction moves with
  | nil =>
    intro clock part
    constructor
    · exact fun h => .inl ⟨List.forall_mem_nil _, h⟩
    · rintro (⟨-, h⟩ | ⟨_, _, _, _, hrun, -⟩)
      · exact h
      · exact absurd hrun (List.append_ne_nil_of_right_ne_nil _ (List.cons_ne_nil _ _)).symm
  | cons move rest ih =>
    intro clock part
    have hrest := ih (move.tick clock) (move.make clock part)
    rw [config_make] at hrest
    have hfirst := @lasts_or_floods ⟨clock, part, move⟩
      (steps (move.tick clock) (move.make clock part) rest) part.config.readDepth rfl
    rw [Step.after] at hfirst
    rw [afterMoves, steps, flooded_cons, ← or_assoc, ← hfirst]
    exact hrest

/-- The write FIFO keeps its depth. -/
theorem writeFifo_le (moves : List Move) : ∀ (clock : Clock) (part : Part),
    part.writeFifo.length ≤ part.config.writeDepth →
      (afterMoves clock part moves).2.writeFifo.length ≤ part.config.writeDepth := by
  induction moves with
  | nil => exact fun _ _ h => h
  | cons move rest ih =>
    intro clock part hle
    have hrest := ih (move.tick clock) (move.make clock part)
    rw [config_make] at hrest
    exact hrest (Step.levels ⟨clock, part, move⟩ |>.write_le hle)

/-- Whatever is done to a part that starts with empty FIFOs, its write FIFO keeps its depth, and
its read FIFO holds more than it has room for if and only if a read that was ignored has put too
much in and too little has been taken out since. -/
theorem fifos_of_run (config : Config) (cells : Cells) (clock : Clock) (moves : List Move) :
    let reached := (afterMoves clock { config, cells } moves).2
    reached.writeFifo.length ≤ config.writeDepth ∧
      (config.readDepth < reached.readFifo.length ↔
        Flooded config.readDepth (steps clock { config, cells } moves)) := by
  refine ⟨writeFifo_le moves clock { config, cells } (Nat.zero_le _),
    (readDepth_lt_iff moves clock { config, cells }).trans (or_iff_right ?_)⟩
  -- an empty FIFO cannot be left with too much
  exact fun hlasts => Nat.not_lt_zero _ hlasts.2

/-- A read of one byte too many reaches a part that is asleep. -/
theorem readFifo_overfilled :
    let part := Part.new { size := 4096 }
    let moves : List Move :=
      [.issue (.simple Opcode.deepPowerDown), .issue (.read Opcode.readData 0 17 0)]
    (afterMoves .start part moves).2.readFifo.length = 17 ∧ part.config.readDepth = 16 := by
  decide +kernel

end Part

end CardReader
