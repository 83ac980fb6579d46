import CardReader.Proofs.Reads
import CardReader.Proofs.Standby.Basic

/-!
# Calls on a part at standby

What each call of a controller does to a part at standby: which bytes it reads, which unit it erases
and which registers it writes, what it takes for it to answer, and how long it takes.

What is proved here:

* `does_erase` and `does_writeParam` — the two kinds of act;
* `does_readStatus`, `does_read` and `does_configure` — the calls that leave the part as it is.
-/

namespace CardReader

open Flash

namespace Part

variable {clock : Clock} {part : Part}

/-! ## Erases -/

/-- The array with the unit erased that holds an address. -/
def Cells.eraseUnit (config : Config) (unit : EraseUnit) (addr : Nat) (cells : Cells) : Cells :=
  cells.erase ((Part.new config).unitStart unit addr) ((Part.new config).unitSize unit)

@[simp] theorem Cells.size_eraseUnit (config : Config) (unit : EraseUnit) (addr : Nat)
    (cells : Cells) : (cells.eraseUnit config unit addr).size = cells.size :=
  size_erase _ _ _

theorem issue_erase_underway (hsized : part.Sized) (hlisten : Listening clock part)
    (hlatch : part.writeEnabled = true) {unit : EraseUnit} {addr : Nat}
    (haddr : addr < addressSpace ∨ unit = .chip) :
    ∃ value issued, issue clock (eraseCommand unit addr) part = (.ok (), issued) ∧
      issued.transaction = some (.done value) ∧ issued.dma = part.dma ∧
      Underway clock (part.eraseTime unit)
        (part.cells.erase (part.unitStart unit addr) (part.unitSize unit)) part.stored part
        issued := by
  let heard := part.heard (eraseCommand unit addr)
  have hheard : heard.Sized := hsized.congr rfl rfl
  have hissue := issue_erase hlisten unit addr
  rw [eraseUnit_of_enabled hheard hlatch] at hissue
  refine ⟨0, _, hissue, rfl, rfl, ⟨rfl, rfl, rfl, rfl, rfl, rfl⟩, ?_, rfl⟩
  rw [← Controller.unitStart_eraseCommand hsized haddr]
  rfl

/-! ## Status writes -/

/-- The registers after a write to one of them.  A value of two bytes for the first one reaches the
second as well. -/
def written (register : StatusRegister) (value : UInt16) (held : StatusRegister → UInt8)
    (other : StatusRegister) : UInt8 :=
  if other = register then storable register value.toUInt8
  else if register = .one ∧ other = .two ∧ 0xFF < value.toNat then (value.toUInt32 >>> 8).toUInt8
  else held other

/-- What the registers store after a write. -/
theorem stored_writeStatus (hlatch : part.writeEnabled = true) (register : StatusRegister)
    (value : UInt16) :
    (writeStatus clock (Command.writeRegister (writeStatusOpcode register) value
      (if value.toNat > 0xFF then 2 else 1)) register part).stored =
        written register value part.stored := by
  have hlow : value.toUInt32.toUInt8 = value.toUInt8 := UInt16.toUInt8_toUInt32 value
  rw [writeStatus, if_pos hlatch]
  funext other
  cases register with
  | one =>
    cases other with
    | one =>
      rw [written, if_pos rfl, ← hlow]
      exact storedStatusBits_idem _
    | two =>
      by_cases hwide : 0xFF < value.toNat
      all_goals simp [written, workFor, stored, Command.writeRegister, hwide,
        FrameFormat.registerWriteLength]
    | three => rfl
  | two =>
    cases other with
    | two =>
      rw [written, if_pos rfl, ← hlow]
      rfl
    | _ => rfl
  | three =>
    cases other with
    | three =>
      rw [written, if_pos rfl, ← hlow]
      rfl
    | _ => rfl

theorem issue_writeRegister_underway (hlisten : Listening clock part)
    (hlatch : part.writeEnabled = true) (register : StatusRegister) (value : UInt16) :
    ∃ result issued, issue clock (Command.writeRegister (writeStatusOpcode register) value
        (if value.toNat > 0xFF then 2 else 1)) part = (.ok (), issued) ∧
      issued.transaction = some (.done result) ∧ issued.dma = part.dma ∧
      Underway clock part.config.writeStatusTime part.cells (written register value part.stored)
        part issued := by
  let command := Command.writeRegister (writeStatusOpcode register) value
    (if value.toNat > 0xFF then 2 else 1)
  let heard := part.heard command
  have hheard : heard.writeEnabled = true := hlatch
  obtain ⟨⟨hconfig, hfaults, hpower, hdeaf, hlatch', hbusy⟩, -, hcells, hdma⟩ :
    Working clock heard.config.writeStatusTime heard (writeStatus clock command register heard) ∧
      _ := writeStatus_of_enabled hheard register
  exact ⟨0, _, issue_writeRegister hlisten register value _ rfl, rfl, hdma,
    ⟨hconfig, hfaults, hpower, hdeaf, hlatch', hbusy⟩, hcells,
    stored_writeStatus hheard register value⟩

end Part

namespace Flash.Controller

variable {settings : ControllerConfig} {config : Part.Config} {cells : Part.Cells}
  {held : StatusRegister → UInt8} {rig : Rig Part}

/-! ## Acts -/

theorem checkAddress_eq_ok_iff {addr : Nat} :
    checkAddress addr = .ok () ↔ addr < addressSpace := by
  rw [checkAddress]
  split <;> simp_all

theorem does_act_erase (hstandby : Standby config cells held rig) {unit : EraseUnit} {addr : Nat}
    (haddr : addr < addressSpace ∨ unit = .chip) (policy : PollPolicy) :
    (act (Part.eraseCommand unit addr) policy).Does config rig
      { able := policy.Reaches ((Part.new config).eraseTime unit)
        answer := ()
        cells := cells.eraseUnit config unit addr
        held
        us := policy.span ((Part.new config).eraseTime unit) } := by
  have hmode : (Part.eraseCommand unit addr).mode.check rig.bus.features = .ok () := by
    cases unit <;> rfl
  refine does_act policy hstandby hmode (Part.effective_eraseCommand unit addr) ?_
    (Part.Cells.size_eraseUnit _ _ _ _)
  intro armed harmed hlisten hlatch
  have hconfig : armed.config = config := harmed.steady.config_eq.trans hstandby.config_eq
  have hcells : armed.cells = cells := harmed.cells_eq.trans hstandby.cells_eq
  have hstored : armed.stored = held := harmed.stored_eq.trans hstandby.stored_eq
  have hsized : armed.Sized := hstandby.sized.congr (hconfig.trans hstandby.config_eq.symm)
    (by rw [hcells, hstandby.cells_eq])
  have hsize : armed.cells.size = (Part.new config).cells.size := by
    rw [hsized.size_eq, hconfig]
    exact (Part.Cells.size_erased _).symm
  have hissue := Part.issue_erase_underway hsized hlisten hlatch haddr
  rw [Part.eraseTime_congr (show armed.config = (Part.new config).config from hconfig),
    Part.unitSize_congr (show armed.config = (Part.new config).config from hconfig),
    Part.unitStart_congr (show armed.config = (Part.new config).config from hconfig) hsize, hcells,
    hstored] at hissue
  exact hissue

/-- An erase clears its unit exactly if the part can be addressed there and takes no longer than it
is waited for. -/
theorem does_erase (hstandby : Standby config cells held rig) (unit : EraseUnit) (addr : Nat) :
    (erase settings unit addr).Does config rig
      { able := (checkAddress addr = .ok () ∨ unit = .chip) ∧
          settings.poll.Reaches ((Part.new config).eraseTime unit)
        answer := ()
        cells := cells.eraseUnit config unit addr
        held
        us := settings.poll.span ((Part.new config).eraseTime unit) } := by
  by_cases hunit : unit = .chip
  · subst hunit
    have hwait := Op.does_mapFailure (eraseFailure 0) (does_waitReady settings.poll hstandby)
    have herase : ∀ r, Standby config cells held r →
        Op.Does (eraseWith settings (Command.simple Opcode.chipErase) 0) config r _ := fun r hrest =>
      Op.does_mapFailure (eraseFailure 0)
        (does_act_erase hrest (.inr rfl : addr < addressSpace ∨ _) settings.poll)
    refine (Op.does_bind hwait fun _ r hrest => herase r hrest).congr ?_ fun _ => ?_
    · simp only [or_true, true_and]
    · simp only [Nat.zero_add]
  · rw [erase_eq_act hunit]
    have hact : checkAddress addr = .ok () →
        Op.Does (Op.mapFailure (eraseFailure addr)
          (act (Part.eraseCommand unit addr) settings.poll)) config rig _ := fun hcheck =>
      Op.does_mapFailure (eraseFailure addr)
        (does_act_erase hstandby (.inl (checkAddress_eq_ok_iff.1 hcheck)) settings.poll)
    refine (Op.does_check_bind hact).congr ?_ fun _ => rfl
    simp only [hunit, or_false]

/-- A status write reaches its register exactly if it takes no longer than it is waited for. -/
theorem does_writeParam (hstandby : Standby config cells held rig) (register : StatusRegister)
    (value : UInt16) :
    (writeParam settings (Part.writeStatusOpcode register) value).Does config rig
      { able := settings.poll.Reaches config.writeStatusTime
        answer := ()
        cells
        held := Part.written register value held
        us := settings.poll.span config.writeStatusTime } := by
  refine does_act settings.poll hstandby rfl (Part.effective_writeRegister register value _) ?_ rfl
  intro armed harmed hlisten hlatch
  have hissue := Part.issue_writeRegister_underway hlisten hlatch register value
  rw [show armed.config = config from harmed.steady.config_eq.trans hstandby.config_eq,
    show armed.cells = cells from harmed.cells_eq.trans hstandby.cells_eq,
    show armed.stored = held from harmed.stored_eq.trans hstandby.stored_eq] at hissue
  exact hissue

/-! ## Calls that begin no work -/

/-- A command that is answered without any work takes no time. -/
theorem ends_transact_of_standby {command : Command} {issued : Part} {value : UInt32}
    (policy : PollPolicy) (hstandby : Standby config cells held rig)
    (hissue : Part.issue rig.clock command rig.bus = (.ok (), issued))
    (hdone : issued.transaction = some (.done value))
    (hidle : ∃ log transaction resetArmed readFifo writeFifo deviceParams, issued =
      { rig.bus with log, transaction, resetArmed, readFifo, writeFifo, deviceParams }) :
    Op.Ends (Sequence.transact command policy) rig
      (fun done r => done = command.withReadData value ∧ r.bus = issued ∧
        Standby config cells held r ∧ r.clock = rig.clock) fun _ _ => False := by
  have hresponse : issued.faults.unresponsive = false := by
    obtain ⟨_, _, _, _, _, _, rfl⟩ := hidle
    exact congrArg Part.Faults.unresponsive hstandby.faults_eq
  refine (ends_transact_at_once policy hissue hdone hresponse).imp ?_
  rintro done r ⟨hvalue, hbus, hclock⟩
  exact ⟨hvalue, hbus, hstandby.idle (hbus ▸ hidle) (Nat.le_of_eq (by rw [hclock])), hclock⟩

theorem does_configure (hstandby : Standby config cells held rig) :
    (configure settings none).Does config rig { answer := settings, cells, held } := by
  have hnow : rig.clock.now = min (rig.clock.now + 0) lastInstant :=
    (Nat.min_eq_left rig.clock.now_le).symm
  exact ⟨trivial, rfl, hstandby.idle ⟨_, _, _, _, _, _, rfl⟩ (Nat.le_refl _), hnow⟩

/-- A register of a part at standby reads as what it stores: there is no work and no latch to be
shown. -/
theorem does_readStatus (hstandby : Standby config cells held rig) {opcode : UInt8}
    {register : StatusRegister}
    (hopcode : (Command.readRegister opcode 1).instruction = .readStatus register) :
    (readStatus settings opcode).Does config rig { answer := held register, cells, held } := by
  let heard := rig.bus.heard (Command.readRegister opcode 1)
  have hvalue : heard.readStatus rig.clock register = held register := by
    obtain ⟨hawake, halert, hidle⟩ := hstandby.listening
    have hlisten : Part.Listening rig.clock heard := ⟨hawake, halert, hidle⟩
    rw [Part.readStatus_of_listening hlisten hstandby.writeEnabled_eq, ← hstandby.stored_eq]
    rfl
  have hissue := Part.issue_of_answer (Part.check_single _) hstandby.listening
    (show ∀ armed, Part.perform rig.clock (Command.readRegister opcode 1) armed heard =
        (.ok (.done (held register).toUInt32), heard) by
      intro armed
      rw [Part.perform, hopcode, ← hvalue])
  rw [readStatus, Sequence.readStatus, Op.Does, Op.ends_bind]
  refine (ends_transact_of_standby settings.poll hstandby hissue rfl
    ⟨_, _, _, _, _, _, rfl⟩).mono ?_ fun _ _ => False.elim
  rintro done r ⟨rfl, -, hstandby', hclock⟩
  refine ⟨trivial, ?_, hstandby', ?_⟩
  · exact UInt8.toUInt8_toUInt32 _
  · rw [hclock]
    exact (Nat.min_eq_left rig.clock.now_le).symm

/-! ## Reads -/

/-- A part that has been read is at standby. -/
theorem standby_of_scanned {mode : BusMode} {start stop count : Nat} {r : Rig Part}
    (hstandby : Standby config cells held rig) (hscanned : Scanned mode start stop count rig r) :
    Standby config cells held r := by
  obtain ⟨hclock, _, ⟨_, _, _, _, hpart⟩, -⟩ := hscanned
  exact hstandby.idle ⟨_, _, _, _, _, _, hpart⟩ (Nat.le_of_eq (by rw [hclock]))

/-- The pieces of a read are put together again. -/
theorem does_readPieces (hstandby : Standby config cells held rig) (hdepth : config.readDepth ≠ 0)
    (hmode : settings.readMode.check (Part.new config).features = .ok ()) {addr len : Nat}
    (hfit : addr + len ≤ addressSpace) :
    (readPieces settings (max (min readChunk config.readDepth) 1) addr len []).Does config rig
      { answer := cells.slice addr len, cells, held } := by
  have hreadable : Readable settings (max (min readChunk config.readDepth) 1) rig := by
    refine ⟨hstandby.listening, ?_, ?_, Nat.le_max_right _ _, ?_⟩
    · rw [hstandby.faults_eq]
    · rw [hstandby.features_eq, hmode]
    · rw [hstandby.config_eq]
      omega
  refine (ends_readPieces _ addr len [] hfit rig hreadable).mono ?_ fun _ _ => False.elim
  rintro bytes r ⟨hbytes, hscanned⟩
  rw [hstandby.cells_eq] at hbytes
  refine ⟨trivial, hbytes, standby_of_scanned hstandby hscanned, ?_⟩
  rw [hscanned.clock_eq]
  exact (Nat.min_eq_left rig.clock.now_le).symm

/-- A read answers with the bytes of its range exactly if the range lies inside the address space
and the controller can drive the mode. -/
theorem does_read (hstandby : Standby config cells held rig) (hdepth : config.readDepth ≠ 0)
    (addr len : Nat) :
    (read settings addr len).Does config rig
      { able := checkRange addr len = .ok () ∧
          settings.readMode.check (Part.new config).features = .ok ()
        answer := cells.slice addr len
        cells
        held } := by
  rw [Op.Does, read, Op.ends_bind, Op.ends_check]
  refine ⟨fun _ hrange => ?_, fun failure hrange => .inl fun hable => ?_⟩
  · rw [Op.ends_bind, Op.ends_inspect, Op.ends_bind, Op.ends_check,
      show Bus.features rig.bus = _ from hstandby.features_eq]
    refine ⟨fun _ hmode => ?_, fun failure hmode => .inl fun hable => ?_⟩
    · rw [Op.ends_bind, Op.ends_inspect,
        show Bus.readDepth rig.bus = config.readDepth from
          congrArg Part.Config.readDepth hstandby.config_eq]
      have hfit := (checkRange_eq_ok_iff.1 hrange).2
      refine (does_readPieces hstandby hdepth hmode hfit).mono ?_ fun failure r hlate => ?_
      · rintro a r ⟨-, hrest⟩
        exact ⟨⟨hrange, hmode⟩, hrest⟩
      · exact hlate.imp_left fun hunable => absurd trivial hunable
    · rw [hable.2] at hmode
      cases hmode
  · rw [hable.1] at hrange
    cases hrange

end Flash.Controller

end CardReader
