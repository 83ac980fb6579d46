import CardReader.Proofs.Part.Commands
import CardReader.Proofs.Part.Shape

/-!
# How the array changes

Whatever is done to a part, its array changes only under the write enable latch, and each change
costs the latch.  A change is either a program, which clears bits inside one page, or the erase of
one unit.  The latch is set by nothing but a write enable that the part carries out.

What is proved here:

* `cell_clearPage` — a program clears bits and reaches no cell outside its page;
* `feed_cases` and `fate_issue` — all that a call can do to the array and the latch;
* `step_cases` — the same of everything that can be done to a part;
* `changes_of_run` — along a run each change is such a program or erase, there are no more of them
  than write enables, and only an erase sets a bit.
-/

namespace CardReader

open Flash

namespace Part

section Fates

variable {clock : Clock} {part before after : Part} {command : Command}

/-! ## Programs and erases -/

/-- Bits were cleared, and only in the page that holds an address; addresses go round at the end of
the array. -/
def ClearedInPage (before after : Cells) (addr : Nat) : Prop :=
  ∀ i, ∃ mask, after.cell i = before.cell i &&& mask ∧
    (mask ≠ erasedByte →
      ∃ k < pageSize, i = (addr / pageSize * pageSize + k) % before.size)

/-- A program clears bits and reaches no cell outside its page. -/
theorem cell_clearPage (page : Nat) (data : List UInt8) :
    ∀ (cells : Cells) (offset : Nat), offset < pageSize →
      ∀ i, ∃ mask, (clearPage cells page offset data).cell i = cells.cell i &&& mask ∧
        (mask ≠ erasedByte → ∃ k < pageSize, i = (page + k) % cells.size) := by
  induction data with
  | nil =>
    intro cells offset _ i
    exact ⟨erasedByte, (Cells.and_erasedByte _).symm, fun h => absurd rfl h⟩
  | cons byte rest ih =>
    intro cells offset hoffset i
    obtain ⟨mask, hcell, hmask⟩ := ih (cells.clearBits ((page + offset) % cells.size) byte)
      ((offset + 1) % pageSize) (Nat.mod_lt _ (by decide)) i
    rw [Cells.size_clearBits] at hmask
    rw [clearPage, hcell, Cells.clearBits, Cells.cell_put]
    by_cases hplace : i = (page + offset) % cells.size ∧ (page + offset) % cells.size < cells.size
    · rw [if_pos hplace]
      refine ⟨byte &&& mask, ?_, fun _ => ⟨offset, hoffset, hplace.1⟩⟩
      rw [← hplace.1, UInt8.and_assoc]
    · rw [if_neg hplace]
      exact ⟨mask, rfl, hmask⟩

/-- Under the latch, and at its cost, bytes were programmed at an address. -/
structure ProgramsAt (before after : Part) (addr : Nat) : Prop where
  armed : before.writeEnabled = true
  disarmed : after.writeEnabled = false
  cells_eq : ∃ data, after.cells =
    clearPage before.cells (addr - addr % pageSize) (addr % pageSize) data

theorem ProgramsAt.clearedInPage {addr : Nat} (h : ProgramsAt before after addr) :
    ClearedInPage before.cells after.cells addr := by
  obtain ⟨data, hcells⟩ := h.cells_eq
  have hpage : addr - addr % pageSize = addr / pageSize * pageSize := by
    have := Nat.div_add_mod' addr pageSize
    omega
  rw [ClearedInPage, hcells, hpage]
  exact cell_clearPage _ data before.cells _ (Nat.mod_lt _ (by decide))

/-- Under the latch, and at its cost, the unit that holds an address was erased. -/
structure ErasesUnit (before after : Part) (unit : EraseUnit) (addr : Nat) : Prop where
  armed : before.writeEnabled = true
  disarmed : after.writeEnabled = false
  cells_eq : after.cells =
    before.cells.erase (before.unitStart unit addr) (before.unitSize unit)

/-- The array is as it was, and the latch is not set unless it was. -/
structure Calm (before after : Part) : Prop where
  cells_eq : after.cells = before.cells
  latch : after.writeEnabled = true → before.writeEnabled = true

theorem Calm.refl (part : Part) : Calm part part := ⟨rfl, id⟩

/-! ## Data for programs -/

theorem cells_pull (expected : Nat) (data : List UInt8) (part : Part) :
    (pull expected data part).2.cells = part.cells ∧
      (pull expected data part).2.writeEnabled = part.writeEnabled := by
  rw [pull]
  cases part.dma with
  | none => exact ⟨rfl, rfl⟩
  | some claim => exact ⟨rfl, rfl⟩

/-- Bytes that have been pulled are programmed under the latch, or not at all. -/
theorem program_cases (expected : Nat) (pulled : List UInt8) (addr : Nat) (data : List UInt8)
    (part : Part) :
    Calm part (program clock addr data (pull expected pulled part).2) ∨
      ProgramsAt part (program clock addr data (pull expected pulled part).2) addr := by
  obtain ⟨hcells, hlatch⟩ := cells_pull expected pulled part
  generalize (pull expected pulled part).2 = fed at hcells hlatch
  by_cases henabled : fed.writeEnabled = true
  · refine .inr ⟨hlatch ▸ henabled, ?_, data, ?_⟩
    · rw [program, if_pos henabled]
      rfl
    · rw [program, if_pos henabled, ← hcells]
      rfl
  · rw [program, if_neg henabled]
    exact .inl ⟨hcells, fun h => hlatch ▸ h⟩

/-- Data that arrives leaves the array alone, or completes the program that waits for it. -/
theorem feed_cases (clock : Clock) (part : Part) :
    Calm part (feed clock part) ∨
      ∃ addr expected data, part.transaction = some (.streaming addr expected data) ∧
        (feed clock part).transaction = some (.done 0) ∧
        ProgramsAt part (feed clock part) addr := by
  unfold feed
  split
  · rename_i addr expected data hwaits
    obtain ⟨hcells, hlatch⟩ := cells_pull expected data part
    dsimp only
    split
    · exact .inl ⟨hcells, fun h => hlatch ▸ h⟩
    · rcases program_cases expected data addr (pull expected data part).1 part with hcalm | hprograms
      · exact .inl ⟨hcalm.cells_eq, hcalm.latch⟩
      · refine .inr ⟨addr, expected, data, hwaits, rfl, hprograms.armed, ?_, hprograms.cells_eq⟩
        exact hprograms.disarmed
  · exact .inl (.refl part)

theorem startProgram_cases (clock : Clock) (command : Command) (part : Part) :
    Calm part (startProgram clock command part).2 ∨
      ProgramsAt part (startProgram clock command part).2 command.address := by
  unfold startProgram
  split
  · obtain ⟨hcells, hlatch⟩ := cells_pull command.dataLength [] part
    dsimp only
    split
    · exact .inl ⟨hcells, fun h => hlatch ▸ h⟩
    · exact program_cases command.dataLength [] command.address _ part
  · exact .inl (.refl part)

/-! ## Commands -/

/-- What may become of the array and the latch when a command is issued; `enables` tells when the
latch may be set. -/
inductive Fate (enables : Prop) (command : Command) (before after : Part) : Prop
  | calm (calm : Calm before after)
  | enabled (enables : enables) (cells_eq : after.cells = before.cells)
  | programmed (instruction_eq : command.instruction = .program)
    (programs : ProgramsAt before after command.address)
  | erased {unit : EraseUnit} (instruction_eq : command.instruction = .erase unit)
    (erases : ErasesUnit before after unit command.address)

/-- A fate is a matter of the settings, the array and the latch before, and of the last two after. -/
theorem Fate.congr {enables : Prop} {before' after' : Part}
    (h : Fate enables command before after) (hconfig : before'.config = before.config)
    (hcells : before'.cells = before.cells) (hlatch : before'.writeEnabled = before.writeEnabled)
    (hcells' : after'.cells = after.cells) (hlatch' : after'.writeEnabled = after.writeEnabled) :
    Fate enables command before' after' := by
  cases h with
  | calm hcalm =>
    refine .calm ⟨by rw [hcells', hcells, hcalm.cells_eq], ?_⟩
    rw [hlatch', hlatch]
    exact hcalm.latch
  | enabled henables hsame => exact .enabled henables (by rw [hcells', hcells, hsame])
  | programmed hinstruction hprograms =>
    obtain ⟨harmed, hdisarmed, data, hdata⟩ := hprograms
    exact .programmed hinstruction
      ⟨hlatch.trans harmed, hlatch'.trans hdisarmed, data, by rw [hcells', hcells, hdata]⟩
  | @erased unit hinstruction herases =>
    obtain ⟨harmed, hdisarmed, herased⟩ := herases
    refine .erased hinstruction ⟨hlatch.trans harmed, hlatch'.trans hdisarmed, ?_⟩
    rw [hcells', herased, hcells, unitSize_congr hconfig,
      unitStart_congr hconfig (congrArg Cells.size hcells)]

theorem Fate.imp {enables enables' : Prop} (h : Fate enables command before after)
    (himp : enables → enables') : Fate enables' command before after := by
  cases h with
  | calm hcalm => exact .calm hcalm
  | enabled henables hsame => exact .enabled (himp henables) hsame
  | programmed hinstruction hprograms => exact .programmed hinstruction hprograms
  | erased hinstruction herases => exact .erased hinstruction herases

theorem calm_writeStatus (clock : Clock) (command : Command) (register : StatusRegister)
    (part : Part) : Calm part (writeStatus clock command register part) := by
  rw [writeStatus]
  split
  · cases register with
    | one => exact ⟨rfl, fun h => absurd h Bool.false_ne_true⟩
    | two => exact ⟨rfl, fun h => absurd h Bool.false_ne_true⟩
    | three => exact ⟨rfl, fun h => absurd h Bool.false_ne_true⟩
  · exact .refl part

theorem calm_fetch (command : Command) (part : Part) : Calm part (fetch command part).2 := by
  rw [fetch]
  split
  · exact .refl part
  · exact ⟨rfl, id⟩

theorem fate_perform (hsized : Sized part) (clock : Clock) (command : Command) (armed : Bool) :
    Fate (command.instruction = .writeEnable) command part
      (perform clock command armed part).2 := by
  unfold perform
  cases hinstruction : command.instruction with
  | writeEnable => exact .enabled rfl rfl
  | writeDisable => exact .calm ⟨rfl, nofun⟩
  | writeStatus register => exact .calm (calm_writeStatus clock command register part)
  | read =>
    have hcalm := calm_fetch command part
    dsimp only
    split
    all_goals
      rename_i hfetch
      rw [hfetch] at hcalm
      exact .calm hcalm
  | program =>
    rcases startProgram_cases clock command part with hcalm | hprograms
    · exact .calm hcalm
    · exact .programmed hinstruction hprograms
  | erase unit =>
    by_cases henabled : part.writeEnabled = true
    · dsimp only
      rw [eraseUnit_of_enabled hsized henabled]
      exact .erased hinstruction ⟨henabled, rfl, rfl⟩
    · have hidle : eraseUnit clock command.address unit part = part := by
        cases unit with
        | sector => exact if_neg henabled
        | block32 => exact if_neg henabled
        | block64 => exact if_neg henabled
        | chip => exact if_neg henabled
      dsimp only
      rw [hidle]
      exact .calm (.refl part)
  | reset =>
    cases armed with
    | true => exact .calm ⟨rfl, nofun⟩
    | false => exact .calm (.refl part)
  | readStatus => exact .calm (.refl part)
  | readJedecId => exact .calm (.refl part)
  | readManufacturer => exact .calm (.refl part)
  | resetEnable => exact .calm ⟨rfl, id⟩
  | deepPowerDown => exact .calm ⟨rfl, id⟩
  | releasePowerDown => exact .calm (.refl part)
  | suspend => exact .calm (.refl part)
  | ignored => exact .calm (.refl part)

theorem calm_ignore (command : Command) (part : Part) : Calm part (ignore command part).2 := by
  rw [ignore, float]
  dsimp only
  split
  · exact ⟨rfl, id⟩
  · exact .refl part

theorem fate_execute (hsized : Sized part) (clock : Clock) (command : Command) :
    Fate (command.instruction = .writeEnable ∧ Listening clock part) command part
      (execute clock command part).2 := by
  unfold execute
  by_cases hpower : part.poweredDown = true
  · rw [if_pos hpower]
    split
    · exact .calm ⟨rfl, id⟩
    · exact .calm (calm_ignore command part)
  rw [if_neg hpower]
  by_cases hdeaf : part.deaf clock = true
  · rw [if_pos hdeaf]
    split
    · exact .calm (.refl part)
    · exact .calm (calm_ignore command part)
  rw [if_neg hdeaf]
  dsimp only
  split
  · obtain ⟨hcells, hlatch⟩ := calm_ignore command { part with resetArmed := false }
    exact .calm ⟨hcells, hlatch⟩
  rename_i hpast
  have hheard : ¬(part.busy clock && !answersWhileBusy command.instruction) = true := hpast
  have hsized' : Sized { part with resetArmed := false } := ⟨hsized.size_eq, hsized.power⟩
  have hfate := fate_perform hsized' clock command part.resetArmed
  refine Fate.imp (hfate.congr rfl rfl rfl rfl rfl) ?_
  intro henable
  refine ⟨henable, Bool.eq_false_iff.2 hpower, Bool.eq_false_iff.2 hdeaf, ?_⟩
  rw [henable] at hheard
  simpa [answersWhileBusy] using hheard

/-- A command that is issued programs, erases or sets the latch, each in its own case, or leaves
the array and the latch alone. -/
theorem fate_issue (hsized : Sized part) (clock : Clock) (command : Command) :
    Fate (command.instruction = .writeEnable ∧ command.mode.check part.features = .ok () ∧
        Listening clock part) command part (issue clock command part).2 := by
  cases hmode : command.mode.check part.features with
  | error failure =>
    rw [issue_of_refused hmode]
    exact .calm ⟨rfl, id⟩
  | ok =>
    have hsized' : Sized (part.logged command) := ⟨hsized.size_eq, hsized.power⟩
    have hlisten : Listening clock (part.logged command) → Listening clock part :=
      fun h => ⟨h.awake, h.alert, h.idle⟩
    have hfate := fate_execute hsized' clock command
    rw [issue_eq_execute hmode]
    cases hrun : execute clock command (part.logged command) with
    | mk outcome result =>
      rw [hrun] at hfate
      cases outcome with
      | ok transaction =>
        exact Fate.imp (hfate.congr rfl rfl rfl rfl rfl) fun h => ⟨h.1, rfl, hlisten h.2⟩
      | error failure =>
        exact Fate.imp (hfate.congr rfl rfl rfl rfl rfl) fun h => ⟨h.1, rfl, hlisten h.2⟩

end Fates

/-! ## Steps -/

/-- What can be done to a part, and to the time and the faults around it. -/
inductive Move where
  | setParams (value : UInt32)
  | flush
  | write (data : List UInt8)
  | take (count : Nat)
  | issue (command : Command)
  | poll
  | acquire (channel : Nat)
  | start (channel : Nat) (block : List UInt8)
  | idle (channel : Nat)
  | release (channel : Nat)
  | pause (us : Nat)
  | switch (faults : Faults)

/-- The part after a move; asking whether a channel is idle only looks at it. -/
def Move.make (clock : Clock) (part : Part) : Move → Part
  | setParams value => Bus.setDeviceParams value part
  | flush => Bus.flushFifos part
  | write data => (Bus.writeFifo clock data part).2
  | take count => (Bus.readFifo clock count part).2
  | issue command => (Bus.issue clock command part).2
  | poll => (Bus.pollDone clock part).2
  | acquire channel => (Bus.dmaAcquire clock channel part).2
  | start channel block => (Bus.dmaStart clock channel block part).2
  | release channel => Bus.dmaRelease channel part
  | switch faults => { part with faults }
  | idle _ | pause _ => part

/-- The clock after a move. -/
def Move.tick (clock : Clock) : Move → Clock
  | pause us => clock.advance us
  | _ => clock

/-- No move turns the clock back. -/
theorem Move.now_le_tick (move : Move) (clock : Clock) : clock.now ≤ (move.tick clock).now := by
  cases move with
  | pause us => exact clock.now_le_advance us
  | _ => exact Nat.le_refl _

/-- The move brings data or asks for the end of a transaction, so that a program that waits may be
completed by it. -/
def Move.feeds : Move → Bool
  | write _ | start _ _ | poll => true
  | _ => false

/-- A move, with the clock and the part before it. -/
structure Step where
  clock : Clock
  part : Part
  move : Move

namespace Step

/-- The part after the step. -/
def after (step : Step) : Part := step.move.make step.clock step.part

/-- The step changes the array. -/
def changes (step : Step) : Bool := !decide (step.after.cells.bytes.data = step.part.cells.bytes.data)

/-- The step issues a write enable that the part carries out. -/
def enables (step : Step) : Bool :=
  match step.move with
  | .issue command =>
    command.instruction == .writeEnable && (command.mode.check step.part.features).isOk &&
      decide (Listening step.clock step.part)
  | _ => false

/-- The step brings a program at an address to its end: its command is issued with all its data at
hand, or it has been waiting for data. -/
inductive Completes (step : Step) (addr : Nat) : Prop
  | issued {command : Command} (move_eq : step.move = .issue command)
    (instruction_eq : command.instruction = .program) (address_eq : command.address = addr)
  | fed {expected : Nat} {data : List UInt8}
    (waits : step.part.transaction = some (.streaming addr expected data))
    (feeds : step.move.feeds = true) (ends : step.after.transaction = some (.done 0))

/-- The step issues the erase of the unit that holds an address. -/
def Clears (step : Step) (unit : EraseUnit) (addr : Nat) : Prop :=
  ∃ command, step.move = .issue command ∧ command.instruction = .erase unit ∧
    command.address = addr

variable {step : Step}

theorem changes_eq_false_iff : step.changes = false ↔ step.after.cells = step.part.cells := by
  rw [changes, Bool.not_eq_false', decide_eq_true_iff]
  exact ⟨fun h => congrArg Cells.mk (congrArg ByteArray.mk h),
    fun h => congrArg ByteArray.data (congrArg Cells.bytes h)⟩

theorem enables_of_issue {command : Command} (hmove : step.move = .issue command)
    (hinstruction : command.instruction = .writeEnable)
    (hmode : command.mode.check step.part.features = .ok ())
    (hlisten : Listening step.clock step.part) : step.enables = true := by
  simp [enables, hmove, hinstruction, hmode, hlisten, Except.isOk, Except.toBool]

/-- What a step can do to the array and the latch. -/
inductive Effect (step : Step) : Prop
  | calm (calm : Calm step.part step.after)
  | enabled (enables : step.enables = true) (cells_eq : step.after.cells = step.part.cells)
  | programmed {addr : Nat} (completes : step.Completes addr)
    (programs : ProgramsAt step.part step.after addr)
  | erased {unit : EraseUnit} {addr : Nat} (clears : step.Clears unit addr)
    (erases : ErasesUnit step.part step.after unit addr)

/-- Data that arrives in a step, after a change that concerns neither the array nor what waits. -/
theorem effect_of_feed {fed : Part} (hfeeds : step.move.feeds = true)
    (hafter : step.after = feed step.clock fed) (hcells : fed.cells = step.part.cells)
    (hlatch : fed.writeEnabled = step.part.writeEnabled)
    (hwaits : fed.transaction = step.part.transaction) : step.Effect := by
  rcases feed_cases step.clock fed with hcalm | ⟨addr, expected, data, hwaiting, hover, hprograms⟩
  · refine .calm ⟨?_, ?_⟩
    · rw [hafter, hcalm.cells_eq, hcells]
    · rw [hafter, ← hlatch]
      exact hcalm.latch
  · obtain ⟨harmed, hdisarmed, bytes, hbytes⟩ := hprograms
    refine .programmed (.fed (hwaits ▸ hwaiting) hfeeds (hafter ▸ hover)) ⟨?_, ?_, bytes, ?_⟩
    · rw [← hlatch, harmed]
    · rw [hafter, hdisarmed]
    · rw [hafter, hbytes, hcells]

theorem effect_of_issue (hsized : Sized step.part) {command : Command}
    (hmove : step.move = .issue command) : step.Effect := by
  have hafter : step.after = (issue step.clock command step.part).2 := by
    rw [after, hmove]
    rfl
  have hfate := fate_issue hsized step.clock command
  rw [← hafter] at hfate
  cases hfate with
  | calm hcalm => exact .calm hcalm
  | enabled henables hcells =>
    exact .enabled (enables_of_issue hmove henables.1 henables.2.1 henables.2.2) hcells
  | programmed hinstruction hprograms =>
    exact .programmed (.issued hmove hinstruction rfl) hprograms
  | erased hinstruction herases => exact .erased ⟨command, hmove, hinstruction, rfl⟩ herases

/-- Every step has one of these effects. -/
theorem step_cases (hsized : Sized step.part) : step.Effect := by
  obtain ⟨clock, part, move⟩ := step
  cases move with
  | issue command => exact effect_of_issue hsized rfl
  | write data =>
    by_cases hfull : part.config.writeDepth - part.writeFifo.length < data.length
    · refine .calm ?_
      rw [show after ⟨clock, part, .write data⟩ = part from congrArg Prod.snd (if_pos hfull)]
      exact .refl part
    · exact effect_of_feed rfl (congrArg Prod.snd (if_neg hfull)) rfl rfl rfl
  | start channel block =>
    have hafter : after ⟨clock, part, .start channel block⟩ =
        (dmaStart clock channel block part).2 := rfl
    rw [dmaStart] at hafter
    cases hdma : part.dma with
    | none =>
      refine .calm ?_
      rw [hafter, hdma]
      exact .refl part
    | some claim =>
      rw [hdma] at hafter
      by_cases hchannel : claim.channel = channel
      · exact effect_of_feed rfl (hafter.trans (congrArg Prod.snd (if_pos hchannel))) rfl rfl rfl
      · have hrefused : after ⟨clock, part, .start channel block⟩ = part :=
          hafter.trans (congrArg Prod.snd (if_neg hchannel))
        refine .calm ?_
        rw [hrefused]
        exact .refl part
  | poll =>
    have hafter : after ⟨clock, part, .poll⟩ = (pollDone clock part).2 := rfl
    rw [pollDone] at hafter
    by_cases hdead : part.faults.unresponsive = true
    · refine .calm ?_
      rw [hafter, if_pos hdead]
      exact .refl part
    · refine effect_of_feed rfl ?_ rfl rfl rfl
      rw [hafter, if_neg hdead]
      dsimp only
      split
      all_goals rfl
  | take count =>
    refine .calm ?_
    show Calm part (take count part).2
    rw [take]
    split
    · exact ⟨rfl, id⟩
    · exact .refl part
  | acquire channel =>
    refine .calm ?_
    show Calm part (dmaAcquire channel part).2
    rw [dmaAcquire]
    split
    · exact .refl part
    split
    · exact .refl part
    · exact ⟨rfl, id⟩
  | release channel =>
    refine .calm ?_
    show Calm part (dmaRelease channel part)
    rw [dmaRelease]
    split
    · split
      · exact ⟨rfl, id⟩
      · exact .refl part
    · exact .refl part
  | setParams value => exact .calm ⟨rfl, id⟩
  | flush => exact .calm ⟨rfl, id⟩
  | switch faults => exact .calm ⟨rfl, id⟩
  | idle channel => exact .calm (.refl part)
  | pause us => exact .calm (.refl part)

/-- Only the erase of a unit that covers it sets a bit. -/
theorem clears_of_testBit (hsized : Sized step.part) {i bit : Nat}
    (hclear : (step.part.cells.cell i).toNat.testBit bit = false)
    (hset : (step.after.cells.cell i).toNat.testBit bit = true) :
    ∃ unit addr, step.Clears unit addr ∧ step.part.unitStart unit addr ≤ i ∧
      i < step.part.unitStart unit addr + step.part.unitSize unit := by
  have hsame : step.after.cells.cell i ≠ step.part.cells.cell i := by
    intro h
    rw [h, hclear] at hset
    cases hset
  cases step_cases hsized with
  | calm hcalm => exact absurd (by rw [hcalm.cells_eq]) hsame
  | enabled _ hcells => exact absurd (by rw [hcells]) hsame
  | programmed hcompletes hprograms =>
    obtain ⟨mask, hcell, -⟩ := hprograms.clearedInPage i
    rw [hcell, UInt8.toNat_and, Nat.testBit_and, hclear, Bool.false_and] at hset
    cases hset
  | @erased unit addr hclears herases =>
    rw [herases.cells_eq, Cells.cell_erase] at hsame
    exact ⟨unit, addr, hclears, Decidable.not_not.1 fun houtside => hsame (if_neg houtside)⟩

/-- A change costs the latch, which only a write enable sets. -/
theorem credit_step (step : Step) (hsized : Sized step.part) :
    (if step.changes then 1 else 0) + (if step.after.writeEnabled then 1 else 0) ≤
      (if step.part.writeEnabled then 1 else 0) + if step.enables then 1 else 0 := by
  have hkept (hcells : step.after.cells = step.part.cells) : step.changes = false :=
    changes_eq_false_iff.2 hcells
  cases step_cases hsized with
  | calm hcalm =>
    rw [hkept hcalm.cells_eq]
    have hlatch := hcalm.latch
    cases hafter : step.after.writeEnabled with
    | false => simp
    | true => simp [hlatch hafter]
  | enabled henables hcells =>
    rw [hkept hcells, henables]
    have hle : (if step.after.writeEnabled then 1 else 0) ≤ 1 := by split <;> simp
    simpa using Nat.le_add_left_of_le hle
  | programmed _ hprograms =>
    rw [hprograms.armed, hprograms.disarmed]
    split <;> simp
  | erased _ herases =>
    rw [herases.armed, herases.disarmed]
    split <;> simp

end Step

/-! ## Runs -/

/-- The steps of a run. -/
def steps (clock : Clock) (part : Part) : List Move → List Step
  | [] => []
  | move :: rest => ⟨clock, part, move⟩ :: steps (move.tick clock) (move.make clock part) rest

section Runs

variable {part : Part}

theorem Sized.make (h : Sized part) (clock : Clock) (move : Move) :
    Sized (move.make clock part) := by
  have hshape {after : Part} (hafter : after.shape = part.shape) : Sized after :=
    h.congr (congrArg Shape.config hafter) (congrArg Shape.size hafter)
  cases move with
  | write data => exact hshape (shape_queue clock data part)
  | take count => exact hshape (shape_take count part)
  | issue command => exact hshape (shape_issue clock command part)
  | poll => exact hshape (shape_pollDone clock part)
  | start channel block => exact hshape (shape_dmaStart clock channel block part)
  | acquire channel =>
    show Sized (dmaAcquire channel part).2
    rw [dmaAcquire]
    split
    · exact h
    split
    · exact h
    · exact ⟨h.size_eq, h.power⟩
  | release channel =>
    show Sized (dmaRelease channel part)
    rw [dmaRelease]
    split
    · split
      · exact ⟨h.size_eq, h.power⟩
      · exact h
    · exact h
  | setParams | flush | switch => exact ⟨h.size_eq, h.power⟩
  | idle | pause => exact h

theorem sized_of_mem_steps {moves : List Move} {step : Step} :
    ∀ {clock : Clock} {part : Part}, Sized part → step ∈ steps clock part moves →
      Sized step.part := by
  induction moves with
  | nil => intro clock part _ hmem; cases hmem
  | cons move rest ih =>
    intro clock part hsized hmem
    rcases List.mem_cons.1 hmem with rfl | hrest
    · exact hsized
    · exact ih (hsized.make clock move) hrest

/-- Along a run there are no more changes than write enables, and one more if the latch was set
before. -/
theorem countP_changes_le (moves : List Move) :
    ∀ (clock : Clock) (part : Part), Sized part →
      (steps clock part moves).countP Step.changes ≤
        (if part.writeEnabled then 1 else 0) + (steps clock part moves).countP Step.enables := by
  induction moves with
  | nil => intro clock part _; exact Nat.zero_le _
  | cons move rest ih =>
    intro clock part hsized
    let step : Step := ⟨clock, part, move⟩
    have hstep := step.credit_step hsized
    have hrest : _ ≤ (if step.after.writeEnabled then 1 else 0) + _ :=
      ih (move.tick clock) (move.make clock part) (hsized.make clock move)
    rw [steps, List.countP_cons, List.countP_cons]
    show _ + (if step.changes then 1 else 0) ≤
      (if step.part.writeEnabled then 1 else 0) + (_ + if step.enables then 1 else 0)
    omega

end Runs

/-- The unit that holds an address lies inside the array and was erased, and nothing else was
changed. -/
def UnitErased (before after : Part) (unit : EraseUnit) (addr : Nat) : Prop :=
  before.unitStart unit addr + before.unitSize unit ≤ before.cells.size ∧
    ∀ i, after.cells.cell i =
      if before.unitStart unit addr ≤ i ∧ i < before.unitStart unit addr + before.unitSize unit
      then erasedByte else before.cells.cell i

/-- Whatever is done to a part that starts with a clear latch, and in whatever order: each change of
its array happens under the latch and costs it, and is a program inside one page or the erase of
one unit; there are no more changes than write enables that the part has carried out; and a bit is
set by nothing but an erase that covers it. -/
theorem changes_of_run {config : Config} {cells : Cells} (hsize : cells.size = config.size)
    (hpower : Config.isPowerOfTwo config.size = true) (clock : Clock) (moves : List Move) :
    let run := steps clock { config, cells } moves
    (∀ step ∈ run, step.changes = true →
      step.part.writeEnabled = true ∧ step.after.writeEnabled = false ∧
        ((∃ addr, step.Completes addr ∧
            ClearedInPage step.part.cells step.after.cells addr) ∨
          ∃ unit addr, step.Clears unit addr ∧ UnitErased step.part step.after unit addr)) ∧
      run.countP Step.changes ≤ run.countP Step.enables ∧
      ∀ step ∈ run, ∀ i bit, (step.part.cells.cell i).toNat.testBit bit = false →
        (step.after.cells.cell i).toNat.testBit bit = true →
        ∃ unit addr, step.Clears unit addr ∧ step.part.unitStart unit addr ≤ i ∧
          i < step.part.unitStart unit addr + step.part.unitSize unit := by
  intro run
  have hfresh : Sized { config, cells } := ⟨hsize, hpower⟩
  refine ⟨?_, ?_, ?_⟩
  · intro step hmem hchanges
    have hsized := sized_of_mem_steps hfresh hmem
    have hdiffers : step.after.cells ≠ step.part.cells := by
      intro hsame
      rw [Step.changes_eq_false_iff.2 hsame] at hchanges
      cases hchanges
    cases Step.step_cases hsized with
    | calm hcalm => exact absurd hcalm.cells_eq hdiffers
    | enabled _ hsame => exact absurd hsame hdiffers
    | @programmed addr hcompletes hprograms =>
      exact ⟨hprograms.armed, hprograms.disarmed, .inl ⟨addr, hcompletes, hprograms.clearedInPage⟩⟩
    | @erased unit addr hclears herases =>
      refine ⟨herases.armed, herases.disarmed, .inr ⟨unit, addr, hclears, ?_, ?_⟩⟩
      · exact hsized.unit_fits unit addr
      · intro i
        rw [herases.cells_eq, Cells.cell_erase]
  · have hcount := countP_changes_le moves clock { config, cells } hfresh
    simpa using hcount
  · intro step hmem i bit hclear hset
    exact Step.clears_of_testBit (sized_of_mem_steps hfresh hmem) hclear hset

/-- A program that waits for its second byte is completed by a write to the FIFO; an erase is
ignored while the part is at work and clears its unit after that.  Two write enables, two
changes. -/
theorem changes_of_program_and_erase :
    let config : Config := { size := 16 }
    let cells : Cells := ⟨⟨Array.replicate 16 0xF0⟩⟩
    let erase : Move := .issue (.erase Opcode.sectorErase 3)
    let moves : List Move :=
      [.issue (.simple Opcode.writeEnable), .write [0xA5],
        .issue (.program Opcode.pageProgram 14 2), .write [0x5A], erase, .pause 700,
        .issue (.simple Opcode.writeEnable), erase]
    let run := steps .start { config, cells } moves
    cells.size = config.size ∧ Config.isPowerOfTwo config.size = true ∧
      run.countP Step.changes = 2 ∧ run.countP Step.changes ≤ run.countP Step.enables := by
  intro config cells erase moves run
  have hsize : cells.size = config.size := rfl
  have hpower : Config.isPowerOfTwo config.size = true := by decide
  exact ⟨hsize, hpower, by decide +kernel, (changes_of_run hsize hpower .start moves).2.1⟩

end Part

end CardReader
