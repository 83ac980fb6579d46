import Mathlib.Tactic.Choose
import CardReader.CommandLine.Run
import CardReader.Proofs.Command.Runs
import CardReader.Proofs.Standby.Programs
import CardReader.Proofs.Standby.Ranges

/-!
# Commands on a part at standby

What a command comes to on a part at standby is settled by the array and the files.  The status
registers stand beside that: only the command for them shows or changes them, and nothing else
depends on what they hold.

What is proved here:

* `comes_bind` — commands one after another;
* `determined_read`, `determined_write` and `determined_erase` — what these come to does not depend
  on the status registers;
* `describeStatus_inj` — what is shown of a register tells its value;
* `runs_status_show`, `runs_status_write` and `comes_status_write` — what becomes of the registers,
  and what is shown of them.
-/

namespace CardReader

open Flash Flash.Controller

namespace Command

variable {α β : Type} {config : Part.Config} {cells : Part.Cells}
  {held between : StatusRegister → UInt8} {rig : Rig Part} {files : Files}

/-! ## Outcomes -/

/-- What a command comes to that answers. -/
structure Outcome (α : Type) where
  /-- The answer. -/
  answer : α
  /-- The lines that are printed. -/
  lines : List String
  /-- The array afterwards. -/
  cells : Part.Cells
  /-- The files afterwards. -/
  files : Files

/-- The command comes to this outcome, and fails if there is none; nothing but a clock that runs out
can keep it from its outcome.  Afterwards the registers hold `held`. -/
def Comes (command : Command (Rig Part) α) (config : Part.Config) (held : StatusRegister → UInt8)
    (rig : Rig Part) (files : Files) (outcome : Option (Outcome α)) : Prop :=
  match command.run rig files with
  | ((.ok a, after), lines, last) =>
    ∃ cells, outcome = some ⟨a, lines, cells, last⟩ ∧ Standby config cells held after
  | ((.error _, after), _, _) => outcome = none ∨ after.clock.now = lastInstant

/-- What the command comes to depends on the array and the files alone, and it leaves the registers
as they are. -/
def Determined (config : Part.Config) (command : Command (Rig Part) α) : Prop :=
  ∀ cells files, ∃ outcome, ∀ held rig, Standby config cells held rig →
    command.Comes config held rig files outcome

theorem comes_of_runs {command : Command (Rig Part) α} {a : α} {after : Rig Part}
    {lines : List String} {last : Files} (h : Runs command rig files a after lines last)
    (hstandby : Standby config cells held after) :
    command.Comes config held rig files (some ⟨a, lines, cells, last⟩) := by
  rw [Comes, h]
  exact ⟨cells, rfl, hstandby⟩

/-- An outcome that has come about. -/
theorem Comes.of_runs {command : Command (Rig Part) α} {a : α} {after : Rig Part}
    {lines : List String} {last : Files} {outcome : Option (Outcome α)}
    (h : command.Comes config held rig files outcome)
    (hruns : Runs command rig files a after lines last) :
    ∃ cells, outcome = some ⟨a, lines, cells, last⟩ ∧ Standby config cells held after := by
  rwa [Comes, hruns] at h

/-- An outcome that is there comes about before the clock runs out. -/
theorem Comes.runs {command : Command (Rig Part) α} {outcome : Outcome α}
    (h : command.Comes config held rig files (some outcome))
    (hclock : (command.run rig files).1.2.clock.now ≠ lastInstant) :
    ∃ after, Runs command rig files outcome.answer after outcome.lines outcome.files ∧
      Standby config outcome.cells held after := by
  rw [Comes] at h
  cases hrun : command.run rig files with
  | mk answer rest =>
    obtain ⟨result, after⟩ := answer
    rw [hrun] at h hclock
    cases result with
    | ok a =>
      obtain ⟨cells, houtcome, hstandby⟩ := h
      cases houtcome
      exact ⟨after, hrun, hstandby⟩
    | error fault =>
      rcases h with hnone | hlast
      · cases hnone
      · exact absurd hlast hclock

/-- What comes next comes to its outcome where the first command has led to. -/
theorem comes_bind {first : Command (Rig Part) β} {next : β → Command (Rig Part) α}
    {outcome : Option (Outcome β)} (more : Outcome β → Option (Outcome α))
    (hfirst : first.Comes config between rig files outcome)
    (hnext : ∀ before, outcome = some before → ∀ r, Standby config before.cells between r →
      (next before.answer).Comes config held r before.files (more before)) :
    (first >>= next).Comes config held rig files (outcome.bind fun before =>
      (more before).map fun after => { after with lines := before.lines ++ after.lines }) := by
  rw [Comes] at hfirst ⊢
  rw [run_bind]
  cases hrun : first.run rig files with
  | mk answer rest =>
    obtain ⟨result, mid⟩ := answer
    rw [hrun] at hfirst
    cases result with
    | error fault =>
      refine hfirst.imp_left fun hnone => ?_
      rw [hnone]
      rfl
    | ok b =>
      obtain ⟨cells, rfl, hstandby⟩ := hfirst
      have hcomes := hnext _ rfl mid hstandby
      rw [Comes] at hcomes
      simp only
      cases hlast : (next b).run mid rest.2 with
      | mk answer more =>
        obtain ⟨result, last⟩ := answer
        rw [hlast] at hcomes
        cases result with
        | error fault =>
          refine hcomes.imp_left fun hnone => ?_
          simp only [Option.bind_some, hnone, Option.map_none]
        | ok a =>
          obtain ⟨cells', hsome, hstandby'⟩ := hcomes
          refine ⟨cells', ?_, hstandby'⟩
          simp only [Option.bind_some, hsome, Option.map_some]

/-- Nothing comes of a command after one that fails. -/
theorem comes_bind_of_none {first : Command (Rig Part) β} {next : β → Command (Rig Part) α}
    (hfirst : first.Comes config held rig files none) :
    (first >>= next).Comes config held rig files none :=
  comes_bind (fun _ => none) hfirst fun _ hnone => by cases hnone

theorem determined_bind {first : Command (Rig Part) β} {next : β → Command (Rig Part) α}
    (hfirst : Determined config first) (hnext : ∀ b, Determined config (next b)) :
    Determined config (first >>= next) := by
  intro cells files
  obtain ⟨outcome, houtcome⟩ := hfirst cells files
  choose more hmore using fun before : Outcome β => hnext before.answer before.cells before.files
  exact ⟨_, fun held rig hstandby => comes_bind more (houtcome held rig hstandby)
    fun before _ r hrest => hmore before held r hrest⟩

/-! ## Steps -/

theorem determined_pure (a : α) : Determined config (pure a : Command (Rig Part) α) :=
  fun _ _ => ⟨_, fun _ _ hstandby => comes_of_runs (runs_pure a) hstandby⟩

theorem determined_print (line : String) :
    Determined config (print line : Command (Rig Part) Unit) :=
  fun _ _ => ⟨_, fun _ _ hstandby => comes_of_runs (runs_print line) hstandby⟩

theorem determined_check (outcome : Except CommandFault Unit) :
    Determined config (check outcome : Command (Rig Part) Unit) := by
  cases outcome with
  | ok answer => exact fun _ _ => ⟨_, fun _ _ hstandby => comes_of_runs (runs_check rfl) hstandby⟩
  | error fault => exact fun _ _ => ⟨none, fun _ _ _ => .inl rfl⟩

theorem determined_readFile (path : String) :
    Determined config (readFile path : Command (Rig Part) ByteArray) := by
  intro cells files
  cases hread : files.read path with
  | ok contents => exact ⟨_, fun _ _ hstandby => comes_of_runs (runs_readFile hread) hstandby⟩
  | error fault =>
    refine ⟨none, fun held rig _ => ?_⟩
    rw [Comes, run, readFile, Interaction.run, hread]
    exact .inl rfl

theorem determined_writeFile (path : String) (contents : ByteArray) :
    Determined config (writeFile path contents : Command (Rig Part) Unit) := by
  intro cells files
  cases hwrite : files.write path contents with
  | ok last => exact ⟨_, fun _ _ hstandby => comes_of_runs
    (runs_writeFile_iff.2 ⟨hwrite, rfl, rfl⟩) hstandby⟩
  | error fault =>
    refine ⟨none, fun held rig _ => ?_⟩
    rw [Comes, run, writeFile, Interaction.run, hwrite]
    exact .inl rfl

/-- An operation that is able to do its deed comes to it. -/
theorem comes_flash {op : Op Part α} {deed : Deed α} (h : op.Does config rig deed)
    (hable : deed.able) :
    (flash op).Comes config deed.held rig files (some ⟨deed.answer, [], deed.cells, files⟩) := by
  rw [Op.Does, Op.Ends] at h
  rw [Comes, run_flash]
  cases hrun : op rig with
  | mk result after =>
    rw [hrun] at h
    cases result with
    | ok a =>
      obtain ⟨-, rfl, hstandby, -⟩ := h
      exact ⟨deed.cells, rfl, hstandby⟩
    | error failure =>
      rcases h with hunable | ⟨hlast, -⟩
      · exact absurd hable hunable
      · exact .inr hlast

/-- An operation that is not able to do its deed fails. -/
theorem comes_flash_of_unable {op : Op Part α} {deed : Deed α} (h : op.Does config rig deed)
    (hunable : ¬deed.able) : (flash op).Comes config held rig files none := by
  rw [Op.Does, Op.Ends] at h
  rw [Comes, run_flash]
  cases hrun : op rig with
  | mk result after =>
    rw [hrun] at h
    cases result with
    | ok a => exact absurd h.1 hunable
    | error failure => exact .inl rfl

/-- An operation is determined if its deed leaves the registers alone and does not depend on
them. -/
theorem determined_flash {op : Op Part α} {able : Part.Cells → Prop} {answer : Part.Cells → α}
    {after : Part.Cells → Part.Cells} {us : Part.Cells → Nat}
    (h : ∀ cells held rig, Standby config cells held rig → op.Does config rig
      { able := able cells, answer := answer cells, cells := after cells, held, us := us cells }) :
    Determined config (flash op) := by
  intro cells files
  by_cases hable : able cells
  · exact ⟨some ⟨answer cells, [], after cells, files⟩,
      fun held rig hstandby => comes_flash (h cells held rig hstandby) hable⟩
  · exact ⟨none, fun held rig hstandby => comes_flash_of_unable (h cells held rig hstandby) hable⟩

/-! ## Requests that leave the registers alone -/

theorem determined_readRange (hdepth : config.readDepth ≠ 0) (settings : ControllerConfig)
    (addr len : Nat) : Determined config (flash (readRange settings addr len)) :=
  determined_flash fun _ _ _ hstandby => does_readRange hstandby hdepth addr len

theorem determined_eraseRange (settings : ControllerConfig) (addr len : Nat) :
    Determined config (flash (eraseRange settings addr len)) :=
  determined_flash fun _ _ _ hstandby => does_eraseRange hstandby addr len

theorem determined_program (settings : ControllerConfig) (addr : Nat) (data : List UInt8)
    (useDma : Bool) (cipher : CipherMode) :
    Determined config (flash (program settings addr data useDma cipher)) :=
  determined_flash fun _ _ _ hstandby => does_program hstandby

theorem determined_eraseUnit (settings : ControllerConfig) (unit : EraseUnit) (addr : Nat) :
    Determined config (flash (Controller.erase settings unit addr)) :=
  determined_flash fun _ _ _ hstandby => does_erase hstandby unit addr

theorem determined_read (hdepth : config.readDepth ≠ 0) (settings : ControllerConfig)
    (addr len : Nat) (output : String) :
    Determined config (Command.read settings addr len output) :=
  determined_bind (determined_readRange hdepth settings addr len) fun _ =>
    determined_bind (determined_writeFile _ _) fun _ => determined_print _

theorem determined_erase (settings : ControllerConfig) (target : EraseTarget) :
    Determined config (Command.erase settings target) := by
  cases target with
  | sector addr =>
    exact determined_bind (determined_eraseUnit settings .sector addr) fun _ => determined_print _
  | block32 addr =>
    exact determined_bind (determined_eraseUnit settings .block32 addr) fun _ => determined_print _
  | block64 addr =>
    exact determined_bind (determined_eraseUnit settings .block64 addr) fun _ => determined_print _
  | chip => exact determined_eraseUnit settings .chip 0

theorem determined_verifyRange (hdepth : config.readDepth ≠ 0) (settings : ControllerConfig)
    (addr : Nat) (data : List UInt8) (cipher : CipherMode) :
    Determined config (verifyRange settings addr data cipher) := by
  refine determined_bind (determined_readRange hdepth settings _ _) fun image => ?_
  cases firstDifference addr data (Cipher.decipher image cipher) with
  | none => exact determined_print _
  | some place => exact fun _ _ => ⟨none, fun _ _ _ => .inl rfl⟩

theorem determined_write (hdepth : config.readDepth ≠ 0) (settings : ControllerConfig) (addr : Nat)
    (input : String) (options : WriteOptions) :
    Determined config (Command.write settings addr input options) := by
  refine determined_bind (determined_readFile input) fun contents =>
    determined_bind (determined_print _) fun _ => determined_bind (determined_check _) fun _ => ?_
  have hrest : Determined config (do
      let stats ← flash (program settings addr contents.data.toList options.useDma options.cipher)
      reportProgrammed addr stats
      if options.verify then verifyRange settings addr contents.data.toList options.cipher
        else pure () : Command (Rig Part) Unit) := by
    refine determined_bind (determined_program settings addr _ _ _) fun stats =>
      determined_bind (determined_print _) fun _ => ?_
    cases options.verify with
    | true => exact determined_verifyRange hdepth settings addr _ _
    | false => exact determined_pure ()
  cases options.erase with
  | true => exact determined_bind (determined_eraseRange settings addr _) fun _ => hrest
  | false => exact hrest

/-! ## What is shown of a register -/

theorem testBit_of_not_lt {value : UInt8} {i : Nat} (hi : ¬i < 8) :
    value.toNat.testBit i = false :=
  Nat.testBit_lt_two_pow
    (Nat.lt_of_lt_of_le value.toNat_lt (Nat.pow_le_pow_right (by decide) (Nat.not_lt.1 hi)))

theorem binary_inj {a b : UInt8} (h : binary a = binary b) : a = b := by
  have hlist := congrArg String.toList h
  simp only [binary, String.toList_ofList] at hlist
  refine UInt8.toNat_inj.1 (Nat.eq_of_testBit_eq fun i => ?_)
  by_cases hi : i < 8
  · have hbit := (List.map_inj_left.1 hlist) (7 - i) (by simp; omega)
    rw [show 7 - (7 - i) = i by omega] at hbit
    cases ha : a.toNat.testBit i <;> cases hb : b.toNat.testBit i <;> simp [ha, hb] at hbit ⊢
  · rw [testBit_of_not_lt hi, testBit_of_not_lt hi]

/-- What is shown of a register tells its value. -/
theorem describeStatus_inj (register : StatusRegister) {a b : UInt8} :
    describeStatus register a = describeStatus register b ↔ a = b := by
  refine ⟨fun h => binary_inj ?_, fun h => by rw [h]⟩
  have hline := congrArg String.toList (List.cons.inj h).1
  simp only [String.toList_append] at hline
  have hlength : (binary a).toList.length = (binary b).toList.length := by simp [binary]
  exact String.toList_inj.1 (List.append_inj' (List.append_cancel_right hline) hlength).2

theorem length_describeStatus (register : StatusRegister) (a b : UInt8) :
    (describeStatus register a).length = (describeStatus register b).length := by
  cases register <;> rfl

/-! ## Status registers -/

/-- What a register holds is shown. -/
theorem runs_show (files : Files) (hstandby : Standby config cells held rig)
    (settings : ControllerConfig) (register : StatusRegister) : ∃ after,
    Runs (do
      let value ← flash (Controller.readStatus settings (readOpcode register))
      (describeStatus register value).forM print : Command (Rig Part) Unit) rig files () after
        (describeStatus register (held register)) files ∧
      Standby config cells held after ∧ after.clock.now = rig.clock.now := by
  have hopcode : (Flash.Command.readRegister (readOpcode register) 1).instruction =
      .readStatus register := by
    cases register <;> rfl
  have hread : (Controller.readStatus settings (readOpcode register)).Does config rig _ :=
    does_readStatus hstandby hopcode
  obtain ⟨after, hrun, hafter, hnow⟩ := hread.exists_ok trivial rig.clock.now_le
  exact ⟨after, run_bind_of_runs (runs_flash hrun) (runs_forM_print _), hafter, hnow⟩

theorem runs_status_show (files : Files) (hstandby : Standby config cells held rig)
    (settings : ControllerConfig) (register : StatusRegister) : ∃ after,
    Runs (status settings register none) rig files () after
        (describeStatus register (held register)) files ∧
      Standby config cells held after ∧ after.clock.now = rig.clock.now := by
  obtain ⟨after, hruns, hafter⟩ := runs_show files hstandby settings register
  exact ⟨after, run_bind_of_runs (runs_pure ()) hruns, hafter⟩

/-- The line about a write to a register. -/
def writtenLine (register : StatusRegister) (value : Nat) : String :=
  "Wrote 0x" ++ Hex.padded 2 value ++ " to SR" ++ toString (registerNumber register)

/-- The lines about a register that has been written. -/
def describeWritten (register : StatusRegister) (value : Nat) : List String :=
  writtenLine register value ::
    describeStatus register (Part.storable register (UInt16.ofNat value).toUInt8)

theorem written_self (register : StatusRegister) (value : UInt16)
    (held : StatusRegister → UInt8) :
    Part.written register value held register = Part.storable register value.toUInt8 :=
  if_pos rfl

theorem does_writeStatus (hstandby : Standby config cells held rig) (settings : ControllerConfig)
    (register : StatusRegister) (value : UInt16) :
    (Controller.writeParam settings (writeOpcode register) value).Does config rig
      { able := settings.poll.Reaches config.writeStatusTime
        answer := ()
        cells
        held := Part.written register value held
        us := settings.poll.span config.writeStatusTime } := by
  have hopcode : writeOpcode register = Part.writeStatusOpcode register := by
    cases register <;> rfl
  rw [hopcode]
  exact does_writeParam hstandby register value

/-- A write to a register, and what is shown of it afterwards. -/
theorem runs_status_write (hstandby : Standby config cells held rig) {settings : ControllerConfig}
    (register : StatusRegister) {value : Nat} (hvalue : ¬Unsigned.greatest 16 < value)
    (hreaches : settings.poll.Reaches config.writeStatusTime)
    (hclock : rig.clock.now + settings.poll.span config.writeStatusTime ≤ lastInstant) : ∃ after,
    Runs (status settings register (some value)) rig files () after (describeWritten register value)
        files ∧
      Standby config cells (Part.written register (UInt16.ofNat value) held) after ∧
      after.clock.now = rig.clock.now + settings.poll.span config.writeStatusTime := by
  obtain ⟨mid, hrun, hmid, hnow⟩ := (does_writeStatus hstandby settings register
    (UInt16.ofNat value)).exists_ok hreaches hclock
  have hmid : Standby config cells (Part.written register (UInt16.ofNat value) held) mid := hmid
  obtain ⟨after, hshow, hafter, hnow'⟩ := runs_show files hmid settings register
  rw [written_self] at hshow
  have hwrite : Runs (writeStatus settings register value) rig files () mid
      [writtenLine register value] files := by
    rw [writeStatus, if_neg hvalue]
    exact run_bind_of_runs (runs_flash hrun) (runs_print _)
  exact ⟨after, run_bind_of_runs hwrite hshow, hafter, hnow'.trans hnow⟩

/-- What comes of a write to a register does not depend on what the registers held before, and what
they hold afterwards is settled by the value. -/
theorem comes_status_write (config : Part.Config) (settings : ControllerConfig)
    (register : StatusRegister) (value : Nat) (cells : Part.Cells) (files : Files) :
    ∃ outcome, ∀ held rig, Standby config cells held rig →
      (status settings register (some value)).Comes config
        (Part.written register (UInt16.ofNat value) held) rig files outcome := by
  by_cases hvalue : Unsigned.greatest 16 < value
  · refine ⟨none, fun held rig _ => ?_⟩
    have hwrite : (writeStatus settings register value).run rig files =
        ((.error (.valueTooLarge value), rig), [], files) := by
      rw [writeStatus, if_pos hvalue]
      rfl
    rw [Comes, show (status settings register (some value)).run rig files = _ from
      run_bind_of_fails _ hwrite]
    exact .inl rfl
  · have hwrite : ∃ outcome, ∀ held rig, Standby config cells held rig →
        (writeStatus settings register value).Comes config
          (Part.written register (UInt16.ofNat value) held) rig files outcome := by
      rw [writeStatus, if_neg hvalue]
      by_cases hreaches : settings.poll.Reaches config.writeStatusTime
      · have hflash : ∀ held rig, Standby config cells held rig →
            (flash (Controller.writeParam settings (writeOpcode register)
              (UInt16.ofNat value))).Comes config (Part.written register (UInt16.ofNat value) held)
                rig files (some ⟨(), [], cells, files⟩) := fun held rig hstandby =>
          comes_flash (does_writeStatus hstandby settings register _) hreaches
        exact ⟨_, fun held rig hstandby => comes_bind _ (hflash held rig hstandby)
          fun before _ r hrest => comes_of_runs (runs_print _) hrest⟩
      · refine ⟨none, fun held rig hstandby => ?_⟩
        exact comes_bind_of_none
          (comes_flash_of_unable (does_writeStatus hstandby settings register _) hreaches)
    obtain ⟨outcome, houtcome⟩ := hwrite
    let shown := describeStatus register (Part.storable register (UInt16.ofNat value).toUInt8)
    refine ⟨_, fun held rig hstandby => comes_bind
      (fun before => some ⟨(), shown, before.cells, before.files⟩) (houtcome held rig hstandby)
      fun before _ r hrest => ?_⟩
    obtain ⟨after, hshow, hafter, -⟩ := runs_show before.files hrest settings register
    rw [written_self] at hshow
    exact comes_of_runs hshow hafter

end Command

end CardReader
