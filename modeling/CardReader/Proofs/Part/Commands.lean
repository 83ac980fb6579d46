import CardReader.Flash.Controller.Read
import CardReader.Part.Bus
import CardReader.Proofs.Part.Cells

/-!
# What a command does to a part

A part carries out a command if it is listening: awake, not recovering and not at work.
Otherwise it lets the command pass by, unless the command asks for its status or wakes it up.

What is proved here:

* `issue_of_listening` and `issue_eq_of_not_listening` — the two fates of a command;
* `issue_of_dull` — what a part that is asleep or recovering leaves of it;
* `issue_writeEnable`, `issue_reset_armed`, `issue_program`, `issue_erase`, `issue_writeRegister` —
  what a listening part does on the commands that change it;
* `Config.validate_eq_ok_iff` — which configurations are usable;
* `Sized.unit_holds` and `Sized.unit_fits` — the unit of an address holds it and lies inside the
  array;
* `issue_read` and `take_of_length` — what a listening part puts into the read FIFO, and how it
  comes out again;
* `issue_statusCommand` — the status of a part shows no write in progress exactly when the part is
  listening, in whatever state it is;
* `Untouched` — the part before and after commands that leave no trace but in the log;
* `Polled` and `Answered` — the part before and after reads of its status and of its array, with
  what they have added to the log.
-/

namespace CardReader

open Flash

namespace Part

variable {clock clock' : Clock} {part before after : Part} {command : Command}

/-! ## Listening -/

/-- The part is awake, not recovering and not at work. -/
structure Listening (clock : Clock) (part : Part) : Prop where
  /-- The part is not in deep power down. -/
  awake : part.poweredDown = false
  /-- The part is not recovering. -/
  alert : part.deaf clock = false
  /-- The part is not at work. -/
  idle : part.busy clock = false

theorem listening_iff : Listening clock part ↔
    part.poweredDown = false ∧ part.deaf clock = false ∧ part.busy clock = false :=
  ⟨fun h => ⟨h.awake, h.alert, h.idle⟩, fun h => ⟨h.1, h.2.1, h.2.2⟩⟩

instance : Decidable (Listening clock part) := decidable_of_iff _ listening_iff.symm

/-- Listening depends on the power state, the two times and one fault. -/
theorem listening_congr (hpower : after.poweredDown = before.poweredDown)
    (hdeaf : after.deafUntil = before.deafUntil) (hbusy : after.busyUntil = before.busyUntil)
    (hfaults : after.faults = before.faults) : Listening clock after ↔ Listening clock before := by
  rw [listening_iff, listening_iff, deaf, deaf, busy, busy, hpower, hdeaf, hbusy, hfaults]

/-- A part that is left alone goes on listening. -/
theorem listening_of_later (hlisten : Listening clock part) (hlater : clock.now ≤ clock'.now) :
    Listening clock' part := by
  obtain ⟨hawake, halert, hidle⟩ := hlisten
  rw [busy, Bool.or_eq_false_iff] at hidle
  rw [deaf, decide_eq_false_iff_not] at halert
  refine ⟨hawake, decide_eq_false (by omega), ?_⟩
  rw [busy, hidle.1, Bool.false_or, decide_eq_false_iff_not]
  have hready := of_decide_eq_false hidle.2
  omega

/-! ## Parts without a trace -/

/-- Nothing about the part has changed but the log, the last transaction and the arming of a
reset. -/
def Untouched (before after : Part) : Prop :=
  ∃ log transaction resetArmed, after = { before with log, transaction, resetArmed }

namespace Untouched

theorem refl (part : Part) : Untouched part part := ⟨_, _, _, rfl⟩

theorem trans {a b c : Part} (hab : Untouched a b) (hbc : Untouched b c) : Untouched a c := by
  obtain ⟨_, _, _, rfl⟩ := hab
  obtain ⟨log, transaction, armed, rfl⟩ := hbc
  exact ⟨log, transaction, armed, rfl⟩

theorem cells_eq (h : Untouched before after) : after.cells = before.cells := by
  obtain ⟨_, _, _, rfl⟩ := h
  rfl

theorem config_eq (h : Untouched before after) : after.config = before.config := by
  obtain ⟨_, _, _, rfl⟩ := h
  rfl

theorem faults_eq (h : Untouched before after) : after.faults = before.faults := by
  obtain ⟨_, _, _, rfl⟩ := h
  rfl

theorem dma_eq (h : Untouched before after) : after.dma = before.dma := by
  obtain ⟨_, _, _, rfl⟩ := h
  rfl

theorem writeEnabled_eq (h : Untouched before after) :
    after.writeEnabled = before.writeEnabled := by
  obtain ⟨_, _, _, rfl⟩ := h
  rfl

theorem listening (h : Untouched before after) :
    Listening clock after ↔ Listening clock before := by
  obtain ⟨_, _, _, rfl⟩ := h
  exact listening_congr rfl rfl rfl rfl

end Untouched

theorem features_congr (hconfig : after.config = before.config) :
    after.features = before.features := by
  rw [features, features, hconfig]

/-- Settings, faults, power state and recovery are as they were. -/
structure Steady (before after : Part) : Prop where
  config_eq : after.config = before.config
  faults_eq : after.faults = before.faults
  poweredDown_eq : after.poweredDown = before.poweredDown
  deafUntil_eq : after.deafUntil = before.deafUntil

namespace Steady

theorem refl (part : Part) : Steady part part := ⟨rfl, rfl, rfl, rfl⟩

theorem trans {a b c : Part} (hab : Steady a b) (hbc : Steady b c) : Steady a c :=
  ⟨hbc.config_eq.trans hab.config_eq, hbc.faults_eq.trans hab.faults_eq,
    hbc.poweredDown_eq.trans hab.poweredDown_eq, hbc.deafUntil_eq.trans hab.deafUntil_eq⟩

theorem features_eq (h : Steady before after) : after.features = before.features :=
  features_congr h.config_eq

theorem listening (h : Steady before after) (hbusy : after.busyUntil = before.busyUntil) :
    Listening clock after ↔ Listening clock before :=
  listening_congr h.poweredDown_eq h.deafUntil_eq hbusy h.faults_eq

end Steady

theorem Untouched.steady (h : Untouched before after) : Steady before after := by
  obtain ⟨_, _, _, rfl⟩ := h
  exact ⟨rfl, rfl, rfl, rfl⟩

/-! ## The two fates of a command -/

/-- The part as a command finds it that is in the log but has not been carried out. -/
def logged (command : Command) (part : Part) : Part :=
  { part with log := part.log.push command, transaction := none }

/-- The part as a command finds it that the part carries out. -/
def heard (command : Command) (part : Part) : Part :=
  { part with log := part.log.push command, transaction := none, resetArmed := false }

theorem issue_eq_execute (hmode : command.mode.check part.features = .ok ()) :
    issue clock command part =
      match execute clock command (part.logged command) with
      | (.ok transaction, part) => (.ok (), { part with transaction := some transaction })
      | (.error failure, part) => (.error failure, part) := by
  have hlogged : command.mode.check
      (features { part with log := part.log.push command }) = .ok () := hmode
  simp only [issue, hlogged]
  rfl

/-- A command that the controller cannot drive is in the log, and the part does not see it. -/
theorem issue_of_refused {failure : Failure}
    (hmode : command.mode.check part.features = .error failure) :
    issue clock command part = (.error failure, { part with log := part.log.push command }) := by
  have hlogged : command.mode.check
      (features { part with log := part.log.push command }) = .error failure := hmode
  simp only [issue, hlogged]

/-- An ignored command leaves no trace but, if its frame has room for data, in the read FIFO. -/
theorem ignore_eq (command : Command) (part : Part) :
    ∃ value readFifo, ignore command part = (.ok (.done value), { part with readFifo }) := by
  rw [ignore, float]
  dsimp only
  split
  · exact ⟨_, _, rfl⟩
  · exact ⟨_, _, rfl⟩

/-- A part that is asleep or recovering does not carry a command out, unless the command wakes it.
There is no trace but in the log, in the value that the controller reads and, if its frame has room
for data, in the read FIFO. -/
theorem issue_of_dull (hwake : command.instruction ≠ .releasePowerDown)
    (hdull : part.poweredDown = true ∨ part.deaf clock = true) :
    ∃ log readFifo transaction, (issue clock command part).2 =
        { part with log, readFifo, transaction } ∧
      ∀ addr expected data, transaction = some (.streaming addr expected data) →
        part.transaction = transaction := by
  cases hmode : command.mode.check part.features with
  | error failure => exact ⟨_, _, _, congrArg Prod.snd (issue_of_refused hmode), fun _ _ _ _ => rfl⟩
  | ok =>
    have hexecute : ∃ value readFifo, execute clock command (part.logged command) =
        (.ok (.done value), { part.logged command with readFifo }) := by
      rw [execute]
      by_cases hpower : part.poweredDown = true
      · rw [if_pos (show (part.logged command).poweredDown = true from hpower), if_neg hwake]
        exact ignore_eq command _
      · have hdeaf : deaf clock (part.logged command) = true := hdull.resolve_left hpower
        rw [if_neg (show ¬(part.logged command).poweredDown = true from hpower), if_pos hdeaf]
        split
        · exact ⟨_, _, rfl⟩
        · exact ignore_eq command _
    obtain ⟨value, readFifo, hexecute⟩ := hexecute
    refine ⟨part.log.push command, readFifo, some (.done value), ?_, ?_⟩
    · rw [issue_eq_execute hmode, hexecute]
      rfl
    · rintro _ _ _ ⟨⟩

/-- A listening part carries the command out. -/
theorem issue_of_listening (hmode : command.mode.check part.features = .ok ())
    (hlisten : Listening clock part) :
    issue clock command part =
      match perform clock command part.resetArmed (part.heard command) with
      | (.ok transaction, part) => (.ok (), { part with transaction := some transaction })
      | (.error failure, part) => (.error failure, part) := by
  obtain ⟨hawake, halert, hidle⟩ := hlisten
  have hexecute : execute clock command (part.logged command) =
      perform clock command part.resetArmed (part.heard command) := by
    rw [execute, if_neg (by simp [logged, hawake])]
    rw [show deaf clock (part.logged command) = false from halert]
    simp only [Bool.false_eq_true, if_false]
    rw [show busy clock { part.logged command with resetArmed := false } = false from hidle]
    rfl
  rw [issue_eq_execute hmode, hexecute]

/-- The command changes the part, if it has an effect at all, and only while the part listens. -/
structure Effective (command : Command) : Prop where
  /-- A part at work does not carry the command out. -/
  unanswered : answersWhileBusy command.instruction = false
  /-- The command does not wake the part up. -/
  not_wake : command.instruction ≠ .releasePowerDown
  /-- The command does not fill the read FIFO. -/
  not_read : command.format.fillsReadFifo = false

theorem ignore_of_not_read (hread : command.format.fillsReadFifo = false) (part : Part) :
    ∃ value, part.ignore command = (.ok (.done value), part) := by
  rw [ignore, float, hread]
  exact ⟨_, rfl⟩

/-- A part that is not listening ignores what only a listening part carries out; what becomes of
the arming of a reset depends on why it does not listen. -/
theorem execute_of_not_listening (hanswer : answersWhileBusy command.instruction = false)
    (hwake : command.instruction ≠ .releasePowerDown) (hlisten : ¬Listening clock part) :
    ∃ resetArmed, execute clock command part = ignore command { part with resetArmed } := by
  have hstatus : command.instruction ≠ .readStatus .one := by
    intro h
    rw [h] at hanswer
    exact Bool.noConfusion hanswer
  unfold execute
  by_cases hpower : part.poweredDown = true
  · rw [if_pos hpower, if_neg hwake]
    exact ⟨part.resetArmed, rfl⟩
  rw [if_neg hpower]
  by_cases hdeaf : deaf clock part = true
  · rw [if_pos hdeaf, if_neg hstatus]
    exact ⟨part.resetArmed, rfl⟩
  · have hbusy : busy clock { part with resetArmed := false } = true := by
      refine Bool.of_not_eq_false fun hidle => hlisten ⟨?_, ?_, hidle⟩
      · exact Bool.eq_false_iff.2 hpower
      · exact Bool.eq_false_iff.2 hdeaf
    rw [if_neg hdeaf]
    simp only [hbusy, hanswer, Bool.not_false, Bool.and_self, if_true]
    exact ⟨false, rfl⟩

/-- A part that is not listening lets the command pass by, which is in the log all the same. -/
theorem issue_eq_of_not_listening (hmode : command.mode.check part.features = .ok ())
    (heffective : Effective command) (hlisten : ¬Listening clock part) :
    ∃ value resetArmed, issue clock command part =
      (.ok (), { part with
        log := part.log.push command, transaction := some (.done value), resetArmed }) := by
  have hdeaf : ¬Listening clock (part.logged command) :=
    fun h => hlisten ⟨h.awake, h.alert, h.idle⟩
  obtain ⟨resetArmed, hexecute⟩ :=
    execute_of_not_listening heffective.unanswered heffective.not_wake hdeaf
  obtain ⟨value, hignore⟩ :=
    ignore_of_not_read heffective.not_read { part.logged command with resetArmed }
  refine ⟨value, resetArmed, ?_⟩
  rw [issue_eq_execute hmode, hexecute, hignore]
  rfl

/-- A command that passes by leaves no trace but in the log. -/
theorem issue_of_not_listening (hmode : command.mode.check part.features = .ok ())
    (heffective : Effective command) (hlisten : ¬Listening clock part) :
    ∃ value result, issue clock command part = (.ok (), result) ∧ Untouched part result ∧
      result.transaction = some (.done value) := by
  obtain ⟨value, resetArmed, hissue⟩ := issue_eq_of_not_listening hmode heffective hlisten
  exact ⟨value, _, hissue, ⟨_, _, _, rfl⟩, rfl⟩

/-! ## Write enable -/

theorem check_single (features : BusFeatures) : BusMode.single.check features = .ok () := rfl

/-- The command that sets the write enable latch. -/
def writeEnableCommand : Command := (Command.simple Opcode.writeEnable).withMode .single

theorem effective_writeEnable : Effective writeEnableCommand := ⟨rfl, by decide, rfl⟩

/-- Write enable sets the latch of a listening part. -/
theorem issue_writeEnable (hlisten : Listening clock part) :
    issue clock writeEnableCommand part =
      (.ok (), { part.heard writeEnableCommand with
        writeEnabled := true, transaction := some (.done 0) }) := by
  rw [issue_of_listening (check_single _) hlisten]
  rfl

/-- Write enable is logged, and nothing else of the part is changed but the latch, if the part is
listening. -/
theorem issue_writeEnable_eq (clock : Clock) (part : Part) :
    ∃ value resetArmed, issue clock writeEnableCommand part =
      (.ok (), { part with
        log := part.log.push writeEnableCommand
        transaction := some (.done value)
        resetArmed
        writeEnabled := part.writeEnabled || decide (Listening clock part) }) := by
  by_cases hlisten : Listening clock part
  · refine ⟨0, false, ?_⟩
    rw [issue_writeEnable hlisten, decide_eq_true hlisten, Bool.or_true]
    rfl
  · obtain ⟨value, resetArmed, hissue⟩ :=
      issue_eq_of_not_listening (check_single _) effective_writeEnable hlisten
    refine ⟨value, resetArmed, ?_⟩
    rw [hissue, decide_eq_false hlisten, Bool.or_false]

/-! ## Resets -/

/-- A reset enable that reaches a listening part changes nothing but the bit. -/
theorem issue_resetEnable (hmode : command.mode.check part.features = .ok ())
    (hinstruction : command.instruction = .resetEnable) (hlisten : Listening clock part) :
    issue clock command part =
      (.ok (), { part.heard command with
        resetArmed := true, transaction := some (.done 0) }) := by
  rw [issue_of_listening hmode hlisten, perform, hinstruction]

/-- A listening part on which a reset is armed resets. -/
theorem issue_reset_armed (hmode : command.mode.check part.features = .ok ())
    (hinstruction : command.instruction = .reset) (hlisten : Listening clock part)
    (harmed : part.resetArmed = true) :
    issue clock command part =
      (.ok (), { (part.heard command).reset clock with transaction := some (.done 0) }) := by
  rw [issue_of_listening hmode hlisten, perform, hinstruction, harmed]
  rfl

/-! ## Work -/

/-- The part has begun to work for `us` microseconds, which costs it the write enable latch. -/
structure Working (clock : Clock) (us : Nat) (before after : Part) : Prop where
  config_eq : after.config = before.config
  faults_eq : after.faults = before.faults
  poweredDown_eq : after.poweredDown = before.poweredDown
  deafUntil_eq : after.deafUntil = before.deafUntil
  writeEnabled_eq : after.writeEnabled = false
  busyUntil_eq : after.busyUntil = clock.now + us

theorem Working.steady {us : Nat} (h : Working clock us before after) : Steady before after :=
  ⟨h.config_eq, h.faults_eq, h.poweredDown_eq, h.deafUntil_eq⟩

/-- A part that was listening when its work began is listening again once it is done. -/
theorem listening_of_busyUntil {us : Nat} (hlisten : Listening clock before)
    (hfaults : before.faults = {}) (hsteady : Steady before after)
    (hbusy : after.busyUntil = clock.now + us) :
    Listening clock' after ↔ clock.now + us ≤ clock'.now := by
  have halert := hlisten.alert
  rw [listening_iff, hsteady.poweredDown_eq, deaf, hsteady.deafUntil_eq, busy, hsteady.faults_eq,
    hfaults, hbusy]
  simp only [deaf, decide_eq_false_iff_not] at halert
  simp only [hlisten.awake, Bool.false_or, decide_eq_false_iff_not, true_and]
  omega

/-! ## Programs -/

theorem instruction_program (mode : BusMode) (addr len : Nat) :
    ((Command.program mode.programOpcode addr len).withMode mode).instruction = .program := by
  cases mode <;> rfl

theorem effective_program (mode : BusMode) (addr len : Nat) :
    Effective ((Command.program mode.programOpcode addr len).withMode mode) :=
  ⟨by rw [instruction_program]; rfl, by rw [instruction_program]; decide, rfl⟩

/-- A program command takes what data there is, and starts to wait or programs. -/
theorem issue_program {mode : BusMode} (hmode : mode.check part.features = .ok ())
    (hlisten : Listening clock part) (addr len : Nat) {command : Command}
    (hcommand : command = (Command.program mode.programOpcode addr len).withMode mode) :
    issue clock command part =
      (.ok (), { (startProgram clock command (part.heard command)).2 with
        transaction := some (startProgram clock command (part.heard command)).1 }) := by
  subst hcommand
  rw [issue_of_listening hmode hlisten, perform, instruction_program]

/-- Data is taken out of the write FIFO first, and if it is enough nothing else changes. -/
theorem pull_of_fifo (expected : Nat) (data : List UInt8)
    (h : expected - data.length ≤ part.writeFifo.length) :
    pull expected data part =
      (data ++ part.writeFifo.take (expected - data.length),
        { part with writeFifo := part.writeFifo.drop (expected - data.length) }) := by
  have hnothing : expected - (data ++ part.writeFifo.take (expected - data.length)).length = 0 := by
    simp only [List.length_append, List.length_take]
    omega
  unfold pull
  simp only [hnothing, List.take_zero, List.append_nil, List.drop_zero]
  cases hdma : part.dma with
  | none => rfl
  | some claim =>
    obtain ⟨config, cells, _, _, _, _, _, _, _, _, _, _, _, dma, _, _, _⟩ := part
    simp only at hdma
    subst hdma
    rfl

/-- Out of an empty write FIFO nothing comes, and the DMA block is what there is. -/
theorem pull_of_dma {claim : DmaClaim} (expected : Nat) (data : List UInt8)
    (hfifo : part.writeFifo = []) (hdma : part.dma = some claim) :
    pull expected data part =
      (data ++ claim.block.take (expected - data.length),
        { part with dma := some { claim with
          block := claim.block.drop (expected - data.length) } }) := by
  obtain ⟨config, cells, _, _, _, _, _, _, _, _, _, _, writeFifo, dma, _, _, _⟩ := part
  simp only at hfifo hdma
  subst hfifo hdma
  simp [pull]

/-- A program under the latch, inside a page and inside the array, takes its bytes' overlay from
the cells and sets the part to work. -/
theorem program_of_enabled {addr : Nat} {data : List UInt8} (henabled : part.writeEnabled = true)
    (hpage : addr % pageSize + data.length ≤ pageSize)
    (hfit : addr + data.length ≤ part.cells.size) :
    ∃ cells, Cells.Programmed part.cells cells addr data ∧
      program clock addr data part =
        { part with
          cells, writeEnabled := false, busyUntil := clock.now + part.config.pageProgramTime } := by
  have hsplit : addr - addr % pageSize + addr % pageSize = addr :=
    Nat.sub_add_cancel (Nat.mod_le _ _)
  refine ⟨clearPage part.cells (addr - addr % pageSize) (addr % pageSize) data, ?_, ?_⟩
  · have h := programmed_clearPage (addr - addr % pageSize) data part.cells (addr % pageSize) hpage
    rw [hsplit] at h
    exact h hfit
  · rw [program, if_pos henabled]
    rfl

/-! ## Erases -/

/-- Bytes in the unit that an erase clears: never more than the array has. -/
def unitSize (part : Part) : EraseUnit → Nat
  | .sector => min sectorSize part.config.size
  | .block32 => min block32Size part.config.size
  | .block64 => min block64Size part.config.size
  | .chip => part.config.size

/-- The first address of the unit that holds an address; addresses go round at the end of the
array. -/
def unitStart (part : Part) (unit : EraseUnit) (addr : Nat) : Nat :=
  addr % part.cells.size / part.unitSize unit * part.unitSize unit

theorem unitSize_congr (hconfig : after.config = before.config) (unit : EraseUnit) :
    after.unitSize unit = before.unitSize unit := by
  cases unit <;> simp only [unitSize, hconfig]

theorem unitStart_congr (hconfig : after.config = before.config)
    (hsize : after.cells.size = before.cells.size) (unit : EraseUnit) (addr : Nat) :
    after.unitStart unit addr = before.unitStart unit addr := by
  rw [unitStart, unitStart, unitSize_congr hconfig, hsize]

/-- Microseconds that the erase of a unit takes. -/
def eraseTime (part : Part) : EraseUnit → Nat
  | .sector => part.config.sectorEraseTime
  | .block32 => part.config.block32EraseTime
  | .block64 => part.config.block64EraseTime
  | .chip => part.config.chipEraseTime

theorem eraseTime_congr (hconfig : after.config = before.config) (unit : EraseUnit) :
    after.eraseTime unit = before.eraseTime unit := by
  cases unit <;> simp only [eraseTime, hconfig]

theorem Config.validate_eq_ok_iff {config : Config} :
    config.validate = .ok () ↔ isPowerOfTwo config.size = true ∧ config.size ≤ addressSpace ∧
      config.readDepth ≠ 0 ∧ config.writeDepth ≠ 0 := by
  rw [validate]
  split
  · rename_i hsize
    simp only [Bool.or_eq_true, Bool.not_eq_true', decide_eq_true_eq] at hsize
    refine iff_of_false (by simp) ?_
    rintro ⟨hpower, hspace, -⟩
    rcases hsize with hsize | hsize
    · rw [hpower] at hsize
      cases hsize
    · exact absurd hspace (Nat.not_le.2 hsize)
  · rename_i hsize
    simp only [Bool.or_eq_true, Bool.not_eq_true', decide_eq_true_eq, not_or, Bool.not_eq_false,
      Nat.not_lt] at hsize
    split
    · rename_i hdepth
      refine iff_of_false (by simp) ?_
      rintro ⟨-, -, hread, hwrite⟩
      exact hdepth.elim hread hwrite
    · rename_i hdepth
      exact iff_of_true rfl ⟨hsize.1, hsize.2, not_or.1 hdepth⟩

/-- The array has the size that the configuration gives it, a power of two. -/
structure Sized (part : Part) : Prop where
  size_eq : part.cells.size = part.config.size
  power : Config.isPowerOfTwo part.config.size = true

theorem eq_pow_log2 {n : Nat} (h : Config.isPowerOfTwo n = true) : n = Nat.pow 2 n.log2 := by
  simp only [Config.isPowerOfTwo, Bool.and_eq_true, beq_iff_eq] at h
  exact h.2

theorem dvd_of_isPowerOfTwo {m n : Nat} (hm : Config.isPowerOfTwo m = true)
    (hn : Config.isPowerOfTwo n = true) (hle : m ≤ n) : m ∣ n := by
  rw [eq_pow_log2 hm, eq_pow_log2 hn] at hle ⊢
  exact Nat.pow_dvd_pow 2 ((Nat.pow_le_pow_iff_right (by decide : 1 < 2)).1 hle)

theorem Sized.congr (h : Sized before) (hconfig : after.config = before.config)
    (hsize : after.cells.size = before.cells.size) : Sized after :=
  ⟨by rw [hsize, hconfig, h.size_eq], by rw [hconfig]; exact h.power⟩

theorem pos_of_isPowerOfTwo {n : Nat} (h : Config.isPowerOfTwo n = true) : 0 < n := by
  rw [eq_pow_log2 h]
  exact Nat.two_pow_pos _

theorem Sized.pos (h : Sized part) : 0 < part.config.size := pos_of_isPowerOfTwo h.power

/-- Every unit is a power of two. -/
theorem Sized.unitSize_power (h : Sized part) (unit : EraseUnit) :
    Config.isPowerOfTwo (part.unitSize unit) = true := by
  have hmin : ∀ n, Config.isPowerOfTwo n = true →
      Config.isPowerOfTwo (min n part.config.size) = true := by
    intro n hn
    rcases Nat.le_total n part.config.size with hle | hle
    · rwa [Nat.min_eq_left hle]
    · rw [Nat.min_eq_right hle]
      exact h.power
  cases unit with
  | sector => exact hmin _ (by decide)
  | block32 => exact hmin _ (by decide)
  | block64 => exact hmin _ (by decide)
  | chip => exact h.power

theorem Sized.unitSize_le (h : Sized part) (unit : EraseUnit) :
    part.unitSize unit ≤ part.cells.size := by
  rw [h.size_eq]
  cases unit with
  | chip => exact Nat.le_refl _
  | _ => exact Nat.min_le_right _ _

theorem Sized.unitSize_pos (h : Sized part) (unit : EraseUnit) : 0 < part.unitSize unit :=
  pos_of_isPowerOfTwo (h.unitSize_power unit)

/-- The unit of an address holds it. -/
theorem Sized.unit_holds (h : Sized part) (unit : EraseUnit) (addr : Nat) :
    part.unitStart unit addr ≤ addr % part.cells.size ∧
      addr % part.cells.size < part.unitStart unit addr + part.unitSize unit := by
  have hsplit := Nat.div_add_mod' (addr % part.cells.size) (part.unitSize unit)
  have hrest := Nat.mod_lt (addr % part.cells.size) (h.unitSize_pos unit)
  rw [unitStart]
  omega

/-- The whole part starts at its first cell, whatever the address. -/
theorem Sized.unitStart_chip (h : Sized part) (addr : Nat) : part.unitStart .chip addr = 0 := by
  have hlt : addr % part.cells.size < part.unitSize .chip := by
    rw [h.size_eq]
    exact Nat.mod_lt _ h.pos
  rw [unitStart, Nat.div_eq_of_lt hlt, Nat.zero_mul]

/-- The unit that holds an address lies inside the array. -/
theorem Sized.unit_fits (h : Sized part) (unit : EraseUnit) (addr : Nat) :
    part.unitStart unit addr + part.unitSize unit ≤ part.cells.size := by
  have hsize : part.cells.size = part.config.size := h.size_eq
  have hpos := h.pos
  have hlt : addr % part.cells.size < part.cells.size := Nat.mod_lt _ (by omega)
  have hdvd : part.unitSize unit ∣ part.cells.size := by
    rw [hsize]
    exact dvd_of_isPowerOfTwo (h.unitSize_power unit) h.power (hsize ▸ h.unitSize_le unit)
  obtain ⟨count, hcount⟩ := hdvd
  have hindex : addr % part.cells.size / part.unitSize unit < count := by
    rw [Nat.div_lt_iff_lt_mul (h.unitSize_pos unit), Nat.mul_comm, ← hcount]
    exact hlt
  calc part.unitStart unit addr + part.unitSize unit
      = (addr % part.cells.size / part.unitSize unit + 1) * part.unitSize unit := by
        rw [unitStart, Nat.add_mul, Nat.one_mul]
    _ ≤ count * part.unitSize unit := Nat.mul_le_mul_right _ hindex
    _ = part.cells.size := by rw [hcount, Nat.mul_comm]

/-- Clearing the bits below a power of two leads to the start of the unit. -/
theorem sub_and_sub_one {n : Nat} (h : Config.isPowerOfTwo n = true) (x : Nat) :
    x - (x &&& (n - 1)) = x / n * n := by
  have hmod : x &&& (n - 1) = x % n := by
    rw [eq_pow_log2 h]
    exact Nat.and_two_pow_sub_one_eq_mod x _
  have hsplit := Nat.div_add_mod' x n
  omega

/-- An erase under the latch clears its unit and sets the part to work. -/
theorem eraseUnit_of_enabled (hsized : Sized part) (henabled : part.writeEnabled = true)
    (addr : Nat) (unit : EraseUnit) :
    eraseUnit clock addr unit part =
      { part with
        cells := part.cells.erase (part.unitStart unit addr) (part.unitSize unit)
        writeEnabled := false
        busyUntil := clock.now + part.eraseTime unit } := by
  have herase : ∀ (addr len us : Nat), Config.isPowerOfTwo (min len part.config.size) = true →
      erase clock addr len us part =
        { part with
          cells := part.cells.erase
            (addr % part.cells.size / min len part.config.size * min len part.config.size)
            (min len part.config.size)
          writeEnabled := false
          busyUntil := clock.now + us } := by
    intro addr len us hpower
    rw [erase, if_pos henabled]
    simp only [sub_and_sub_one hpower]
    rfl
  cases unit with
  | sector => exact herase addr sectorSize _ (hsized.unitSize_power .sector)
  | block32 => exact herase addr block32Size _ (hsized.unitSize_power .block32)
  | block64 => exact herase addr block64Size _ (hsized.unitSize_power .block64)
  | chip =>
    have h := herase 0 part.config.size part.config.chipEraseTime
      (by rw [Nat.min_self]; exact hsized.power)
    rw [Nat.min_self, Nat.zero_mod, Nat.zero_div, Nat.zero_mul] at h
    rw [hsized.unitStart_chip]
    exact h

/-- The opcode that erases a unit. -/
def eraseOpcode : EraseUnit → UInt8
  | .sector => Opcode.sectorErase
  | .block32 => Opcode.block32Erase
  | .block64 => Opcode.block64Erase
  | .chip => Opcode.chipErase

/-- The command that erases a unit; the whole part has no address. -/
def eraseCommand (unit : EraseUnit) (addr : Nat) : Command :=
  match unit with
  | .chip => Command.simple Opcode.chipErase
  | unit => Command.erase (eraseOpcode unit) addr

theorem instruction_eraseCommand (unit : EraseUnit) (addr : Nat) :
    (eraseCommand unit addr).instruction = .erase unit := by
  cases unit <;> rfl

theorem effective_eraseCommand (unit : EraseUnit) (addr : Nat) :
    Effective (eraseCommand unit addr) := by
  refine ⟨by rw [instruction_eraseCommand]; rfl, by rw [instruction_eraseCommand]; nofun, ?_⟩
  cases unit <;> rfl

/-- An erase command reaches the unit that it names. -/
theorem issue_erase (hlisten : Listening clock part) (unit : EraseUnit) (addr : Nat) :
    issue clock (eraseCommand unit addr) part =
      (.ok (), { eraseUnit clock (eraseCommand unit addr).address unit
          (part.heard (eraseCommand unit addr)) with transaction := some (.done 0) }) := by
  have hmode : (eraseCommand unit addr).mode.check part.features = .ok () := by
    cases unit <;> exact check_single _
  rw [issue_of_listening hmode hlisten, perform, instruction_eraseCommand]

/-! ## Status registers -/

/-- What a status register stores, write in progress and write enable latch aside. -/
def stored (part : Part) : StatusRegister → UInt8
  | .one => storedStatusBits part.status1
  | .two => part.status2
  | .three => part.status3

/-- The bits of a byte that a status register can store. -/
def storable : StatusRegister → UInt8 → UInt8
  | .one, byte => storedStatusBits byte
  | _, byte => byte

theorem storedStatusBits_idem (byte : UInt8) :
    storedStatusBits (storedStatusBits byte) = storedStatusBits byte := by
  simp [storedStatusBits, UInt8.and_assoc]

/-- A status write under the latch stores the low byte of its value and sets the part to work. -/
theorem writeStatus_of_enabled (henabled : part.writeEnabled = true) (register : StatusRegister) :
    Working clock part.config.writeStatusTime part (writeStatus clock command register part) ∧
      (writeStatus clock command register part).stored register =
        storable register command.writeData.toUInt8 ∧
      (writeStatus clock command register part).cells = part.cells ∧
      (writeStatus clock command register part).dma = part.dma := by
  rw [writeStatus, if_pos henabled]
  cases register with
  | one => exact ⟨⟨rfl, rfl, rfl, rfl, rfl, rfl⟩, storedStatusBits_idem _, rfl, rfl⟩
  | two => exact ⟨⟨rfl, rfl, rfl, rfl, rfl, rfl⟩, rfl, rfl, rfl⟩
  | three => exact ⟨⟨rfl, rfl, rfl, rfl, rfl, rfl⟩, rfl, rfl, rfl⟩

/-- The opcode that writes a status register. -/
def writeStatusOpcode : StatusRegister → UInt8
  | .one => Opcode.writeStatus1
  | .two => Opcode.writeStatus2
  | .three => Opcode.writeStatus3

theorem instruction_writeRegister (register : StatusRegister) (value : UInt16) (len : Nat) :
    (Command.writeRegister (writeStatusOpcode register) value len).instruction =
      .writeStatus register := by
  cases register <;> rfl

theorem effective_writeRegister (register : StatusRegister) (value : UInt16) (len : Nat) :
    Effective (Command.writeRegister (writeStatusOpcode register) value len) := by
  refine ⟨by rw [instruction_writeRegister]; rfl, by rw [instruction_writeRegister]; nofun, ?_⟩
  simp only [Command.writeRegister]
  split <;> rfl

theorem issue_writeRegister (hlisten : Listening clock part) (register : StatusRegister)
    (value : UInt16) (len : Nat) {command : Command}
    (hcommand : command = Command.writeRegister (writeStatusOpcode register) value len) :
    issue clock command part =
      (.ok (), { writeStatus clock command register (part.heard command) with
        transaction := some (.done 0) }) := by
  subst hcommand
  rw [issue_of_listening (check_single _) hlisten, perform, instruction_writeRegister]

/-! ## Reading the status -/

/-- The command that reads the first status register. -/
def statusCommand : Command := Command.readRegister Opcode.readStatus1 1

theorem or_and_distrib (a b c : UInt8) : (a ||| b) &&& c = a &&& c ||| b &&& c :=
  UInt8.toBitVec_inj.1 BitVec.and_or_distrib_right

/-- No stored bit and no latch shows as a write in progress. -/
theorem or_or_and_writeInProgress (byte latch progress : UInt8)
    (hlatch : latch &&& StatusBit.writeInProgress = 0) :
    (storedStatusBits byte ||| latch ||| progress) &&& StatusBit.writeInProgress =
      progress &&& StatusBit.writeInProgress := by
  have hstored : storedStatusBits byte &&& StatusBit.writeInProgress = 0 := by
    rw [storedStatusBits, UInt8.and_assoc]
    exact UInt8.and_zero
  rw [or_and_distrib, or_and_distrib, hstored, hlatch, UInt8.zero_or, UInt8.zero_or]

/-- The live status shows no write in progress on a part that is neither at work nor recovering. -/
theorem liveStatus_and_writeInProgress (part : Part) :
    part.liveStatus clock &&& StatusBit.writeInProgress = 0 ↔
      part.busy clock = false ∧ part.deaf clock = false := by
  rw [liveStatus, or_or_and_writeInProgress _ _ _ (by cases part.writeEnabled <;> decide)]
  cases part.busy clock <;> cases part.deaf clock <;> decide

/-- A listening part whose latch is clear shows what its status registers store. -/
theorem readStatus_of_listening (hlisten : Listening clock part)
    (hlatch : part.writeEnabled = false) (register : StatusRegister) :
    part.readStatus clock register = part.stored register := by
  cases register with
  | one =>
    simp only [readStatus, liveStatus, hlisten.idle, hlisten.alert, hlatch, Bool.or_self,
      Bool.false_eq_true, if_false, UInt8.or_zero]
    rfl
  | two | three => rfl

/-- Nothing about the part has changed but that its status has been read `count` times. -/
def Polled (count : Nat) (before after : Part) : Prop :=
  ∃ transaction resetArmed, after =
    { before with
      log := before.log ++ Array.replicate count statusCommand, transaction, resetArmed }

theorem Polled.zero (part : Part) : Polled 0 part part := by
  refine ⟨part.transaction, part.resetArmed, ?_⟩
  simp

/-- One more read of the status is one more in the log. -/
theorem Polled.snoc {count : Nat} {a b c : Part} (hab : Polled count a b) (hbc : Polled 1 b c) :
    Polled (count + 1) a c := by
  obtain ⟨_, _, rfl⟩ := hab
  obtain ⟨transaction, resetArmed, rfl⟩ := hbc
  refine ⟨transaction, resetArmed, ?_⟩
  simp only [Array.append_assoc, Array.replicate_append_replicate]

theorem Polled.untouched {count : Nat} (h : Polled count before after) :
    Untouched before after := by
  obtain ⟨_, _, rfl⟩ := h
  exact ⟨_, _, _, rfl⟩

/-- Whatever the part is doing, a read of its status tells whether it is listening. -/
theorem issue_statusCommand (clock : Clock) (part : Part) :
    ∃ value result, issue clock statusCommand part = (.ok (), result) ∧ Polled 1 part result ∧
      result.transaction = some (.done value) ∧
      (value.toUInt8 &&& StatusBit.writeInProgress = 0 ↔ Listening clock part) := by
  have hinstruction : statusCommand.instruction = .readStatus .one := by decide
  suffices h : ∃ value armed, execute clock statusCommand (part.logged statusCommand) =
      (.ok (.done value), { part.logged statusCommand with resetArmed := armed }) ∧
      (value.toUInt8 &&& StatusBit.writeInProgress = 0 ↔ Listening clock part) by
    obtain ⟨value, armed, hexecute, hvalue⟩ := h
    refine ⟨value, _, ?_, ⟨some (.done value), armed, rfl⟩, rfl, hvalue⟩
    rw [issue_eq_execute (check_single _), hexecute]
    rfl
  rw [execute, hinstruction]
  by_cases hpower : (part.logged statusCommand).poweredDown = true
  · -- asleep the lines float, and all ones show a write in progress
    refine ⟨0xFF, part.resetArmed, ?_, ?_⟩
    · rw [if_pos hpower, if_neg (by decide)]
      rfl
    · refine iff_of_false (by decide) fun h => ?_
      exact absurd hpower (Bool.eq_false_iff.1 h.awake)
  · have hawake : part.poweredDown = false := Bool.eq_false_iff.2 hpower
    rw [if_neg hpower]
    have hvalue : (part.liveStatus clock).toUInt32.toUInt8 &&& StatusBit.writeInProgress = 0 ↔
        Listening clock part := by
      rw [UInt8.toUInt8_toUInt32, liveStatus_and_writeInProgress, listening_iff]
      exact ⟨fun h => ⟨hawake, h.2, h.1⟩, fun h => ⟨h.2.2, h.2.1⟩⟩
    by_cases hdeaf : deaf clock (part.logged statusCommand) = true
    · rw [if_pos hdeaf, if_pos rfl]
      exact ⟨(part.liveStatus clock).toUInt32, part.resetArmed, rfl, hvalue⟩
    · rw [if_neg hdeaf]
      refine ⟨(part.liveStatus clock).toUInt32, false, ?_, hvalue⟩
      simp only [answersWhileBusy, Bool.not_true, Bool.and_false, Bool.false_eq_true, if_false,
        perform, hinstruction]
      rfl

/-! ## Reading the array -/

/-- The part has answered the commands, and nothing about it has changed but its log, the
transaction, the FIFOs and the arming of a reset. -/
def Answered (commands : List Command) (before after : Part) : Prop :=
  ∃ transaction resetArmed readFifo writeFifo, after =
    { before with
      log := before.log ++ commands.toArray, transaction, resetArmed, readFifo, writeFifo }

namespace Answered

variable {commands : List Command}

theorem refl (part : Part) : Answered [] part part := by
  refine ⟨part.transaction, part.resetArmed, part.readFifo, part.writeFifo, ?_⟩
  simp

theorem trans {rest : List Command} {a b c : Part} (hab : Answered commands a b)
    (hbc : Answered rest b c) : Answered (commands ++ rest) a c := by
  obtain ⟨_, _, _, _, rfl⟩ := hab
  obtain ⟨transaction, resetArmed, readFifo, writeFifo, rfl⟩ := hbc
  refine ⟨transaction, resetArmed, readFifo, writeFifo, ?_⟩
  simp

theorem cells_eq (h : Answered commands before after) : after.cells = before.cells := by
  obtain ⟨_, _, _, _, rfl⟩ := h
  rfl

theorem steady (h : Answered commands before after) : Steady before after := by
  obtain ⟨_, _, _, _, rfl⟩ := h
  exact ⟨rfl, rfl, rfl, rfl⟩

theorem listening (h : Answered commands before after) :
    Listening clock after ↔ Listening clock before := by
  obtain ⟨_, _, _, _, rfl⟩ := h
  exact listening_congr rfl rfl rfl rfl

end Answered

/-- A command that a listening part answers without any effect. -/
theorem issue_of_answer {value : UInt32} (hmode : command.mode.check part.features = .ok ())
    (hlisten : Listening clock part)
    (hanswer : ∀ armed, perform clock command armed (part.heard command) =
      (.ok (.done value), part.heard command)) :
    issue clock command part =
      (.ok (), { part.heard command with transaction := some (.done value) }) := by
  rw [issue_of_listening hmode hlisten, hanswer]

theorem instruction_read (mode : BusMode) (addr len cycles : Nat) :
    ((Command.read mode.readOpcode addr len cycles).withMode mode).instruction = .read := by
  cases mode <;> rfl

/-- A read that the FIFO has room for. -/
theorem issue_read {settings : ControllerConfig} {len : Nat} (addr : Nat)
    (hmode : settings.readMode.check part.features = .ok ()) (hlisten : Listening clock part)
    (hdepth : len ≤ part.config.readDepth) :
    issue clock (Controller.readCommand settings addr len) part =
      (.ok (), { part.heard (Controller.readCommand settings addr len) with
        readFifo := part.cells.slice (maskAddress addr) len, transaction := some (.done 0) }) := by
  let command := Controller.readCommand settings addr len
  have hfetch : fetch command (part.heard command) =
      (.ok (), { part.heard command with
        readFifo := part.cells.slice command.address len }) := if_neg (Nat.not_lt.2 hdepth)
  have hinstruction : command.instruction = .read := instruction_read _ _ _ _
  rw [issue_of_listening (show command.mode.check part.features = .ok () from hmode) hlisten,
    perform, hinstruction]
  simp only [hfetch]
  rfl

/-- Bytes that are in the read FIFO, and nothing else, are taken out of it. -/
theorem take_of_length {count : Nat} {bytes : List UInt8} (hlength : bytes.length = count)
    (hfifo : part.readFifo = bytes) :
    ∃ taken : Vector UInt8 count, taken.toList = bytes ∧
      take count part = (.ok taken, { part with readFifo := [] }) := by
  have htake : part.readFifo.take count = bytes := by
    rw [hfifo, List.take_of_length_le (Nat.le_of_eq hlength)]
  have hsize : (part.readFifo.take count).toArray.size = count := by
    rw [htake, List.size_toArray, hlength]
  have hnil : part.readFifo.drop count = [] :=
    List.drop_of_length_le (by rw [hfifo]; exact Nat.le_of_eq hlength)
  refine ⟨⟨(part.readFifo.take count).toArray, hsize⟩, htake, ?_⟩
  rw [take, dif_pos hsize, hnil]

/-! ## Polls -/

/-- A poll finds a finished transaction finished, unless the controller does not respond. -/
theorem pollDone_of_done {value : UInt32} (h : part.transaction = some (.done value)) :
    pollDone clock part =
      (.ok (if part.faults.unresponsive then none else some value), part) := by
  have hfeed : part.feed clock = part := by
    rw [feed, h]
  rw [pollDone, hfeed]
  simp only [h]
  split <;> rfl

end Part

end CardReader
