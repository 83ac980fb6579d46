import CardReader.Proofs.Quiet.Programs

/-!
# Calls on a quiet part

The calls of a controller other than programs, on a quiet part.  Reads and set-up begin no work and
take no time; an erase and a write of a status register are one act each; and a reset is given the
time that the part needs to recover.

What is proved here:

* `ends_read_of_quiet`, `ends_readStatus_of_quiet` and their companions — the calls that take no
  time;
* `ends_erase_of_quiet` and `ends_writeParam_of_quiet` — the calls that take the time of their
  work;
* `ends_softReset_of_quiet` — a reset;
* `Quiet.atRest` — what a quiet part has left over from the calls before.
-/

namespace CardReader

open Flash

namespace Part

variable {clock : Clock} {part : Part} {command : Command}

/-! ## Commands that begin no work -/

theorem idled_of_transaction (part : Part) (command : Command) (value : UInt32)
    (readFifo : List UInt8) (resetArmed : Bool) :
    Idled part { part.heard command with
      readFifo, resetArmed, transaction := some (.done value) } :=
  ⟨⟨rfl, rfl, rfl, rfl⟩, rfl, rfl, rfl, fun _ => over_of_done rfl⟩

/-- Nothing that an operation has left keeps the part from the next one. -/
structure AtRest (clock : Clock) (part : Part) : Prop where
  status : part.liveStatus clock &&&
    (StatusBit.writeInProgress ||| StatusBit.writeEnableLatch) = 0
  dma_eq : part.dma = none
  finished : part.Over

end Part

section Quiet

variable {config : Part.Config} {rig r : Rig Watched}

theorem Quiet.atRest (h : Quiet config rig) : Part.AtRest rig.clock rig.part := by
  refine ⟨?_, h.dma_eq, h.finished⟩
  have hstatus : rig.part.liveStatus rig.clock = Part.storedStatusBits rig.part.status1 :=
    Part.readStatus_of_listening h.listening h.writeEnabled_eq .one
  rw [hstatus, Part.storedStatusBits, UInt8.and_assoc]
  exact UInt8.and_zero

end Quiet

namespace Flash.Controller

variable {settings : ControllerConfig} {config : Part.Config} {rig r : Rig Watched}

/-! ## Calls that program nothing -/

theorem ends_update_of_quiet {change : Watched → Watched} (hquiet : Quiet config rig)
    (hidled : Part.Idled rig.part (change rig.bus).part)
    (hattentive : (change rig.bus).Attentive) :
    Op.Ends (Op.update change) rig (fun _ r => Quiet config r ∧ r.clock = rig.clock)
      fun _ _ => False :=
  (Op.ends_update change).2 ⟨hquiet.idle hidled rfl hattentive, rfl⟩

theorem ends_flush_of_quiet (hquiet : Quiet config rig) :
    Op.Ends (Op.update Bus.flushFifos) rig (fun _ r => Quiet config r ∧ r.clock = rig.clock)
      fun _ _ => False :=
  ends_update_of_quiet hquiet ⟨⟨rfl, rfl, rfl, rfl⟩, rfl, rfl, rfl, id⟩ hquiet.attentive

theorem ends_configure_of_quiet (hquiet : Quiet config rig) (params : Option DeviceParams) :
    Op.Ends (configure settings params) rig (fun _ r => Quiet config r ∧ r.clock = rig.clock)
      fun _ _ => False := by
  refine (ends_update_of_quiet hquiet ⟨⟨rfl, rfl, rfl, rfl⟩, rfl, rfl, rfl, id⟩
    hquiet.attentive).bind ?_
  rintro _ r₁ ⟨hquiet₁, hclock₁⟩
  refine (ends_flush_of_quiet hquiet₁).bind ?_
  rintro _ r₂ ⟨hquiet₂, hclock₂⟩
  exact ⟨hquiet₂, hclock₂.trans hclock₁⟩

/-- A command that is answered without any effect takes no time. -/
theorem ends_answer_of_quiet {command : Command} {value : UInt32} (policy : PollPolicy)
    (hquiet : Quiet config rig) (hmode : command.mode.check rig.part.features = .ok ())
    (hanswer : ∀ armed, Part.perform rig.clock command armed (rig.part.heard command) =
      (.ok (.done value), rig.part.heard command)) :
    Op.Ends (Sequence.transact command policy) rig
      (fun _ r => Quiet config r ∧ r.clock = rig.clock) fun _ _ => False := by
  refine (ends_transact_of_quiet policy hquiet
    (Part.issue_of_answer hmode hquiet.listening hanswer) rfl
    (Part.idled_of_transaction _ _ _ _ _)).imp ?_
  rintro _ r ⟨hquiet', -, hclock⟩
  exact ⟨hquiet', hclock⟩

theorem ends_readId_of_quiet (hquiet : Quiet config rig) :
    Op.Ends (readId settings) rig (fun _ r => Quiet config r ∧ r.clock = rig.clock)
      fun _ _ => False := by
  rw [readId, Sequence.readJedecId, Op.ends_bind]
  exact ends_answer_of_quiet _ hquiet (Part.check_single _) fun _ => rfl

theorem ends_readStatus_of_quiet {opcode : UInt8} (hquiet : Quiet config rig)
    (hopcode : opcode ∈ [Opcode.readStatus1, Opcode.readStatus2, Opcode.readStatus3]) :
    Op.Ends (readStatus settings opcode) rig (fun _ r => Quiet config r ∧ r.clock = rig.clock)
      fun _ _ => False := by
  have hinstruction : ∃ register,
      (Command.readRegister opcode 1).instruction = .readStatus register := by
    simp only [List.mem_cons, List.not_mem_nil, or_false] at hopcode
    rcases hopcode with rfl | rfl | rfl
    · exact ⟨.one, rfl⟩
    · exact ⟨.two, rfl⟩
    · exact ⟨.three, rfl⟩
  obtain ⟨register, hregister⟩ := hinstruction
  rw [readStatus, Sequence.readStatus, Op.ends_bind]
  have hanswer : ∀ armed, Part.perform rig.clock (Command.readRegister opcode 1) armed
      (rig.part.heard (Command.readRegister opcode 1)) =
        (.ok (.done ((rig.part.heard (Command.readRegister opcode 1)).readStatus rig.clock
          register).toUInt32), rig.part.heard (Command.readRegister opcode 1)) := by
    intro armed
    rw [Part.perform, hregister]
  exact ends_answer_of_quiet _ hquiet (Part.check_single _) hanswer

/-- A piece of a read takes no time. -/
theorem ends_readPiece_of_quiet {addr len : Nat} (hquiet : Quiet config rig)
    (hmode : settings.readMode.check (Part.new config).features = .ok ())
    (hdepth : len ≤ config.readDepth) :
    Op.Ends (readPiece settings addr len) rig (fun _ r => Quiet config r ∧ r.clock = rig.clock)
      fun _ _ => False := by
  refine (ends_flush_of_quiet hquiet).bind ?_
  rintro _ r₁ ⟨hquiet₁, hclock₁⟩
  rw [← hquiet₁.features_eq] at hmode
  have hissue := Part.issue_read addr hmode hquiet₁.listening (hquiet₁.config_eq ▸ hdepth)
  refine (ends_transact_of_quiet _ hquiet₁ hissue rfl
    (Part.idled_of_transaction _ _ _ _ _)).bind ?_
  rintro _ r₂ ⟨hquiet₂, hpart₂, hclock₂⟩
  obtain ⟨taken, -, htake⟩ :=
    Part.take_of_length (Part.Cells.length_slice _ _ _) (congrArg Part.readFifo hpart₂)
  rw [Op.ends_mapFailure, Op.ends_call]
  refine ⟨fun _ _ => ⟨hquiet₂.idle ?_ rfl hquiet₂.attentive, hclock₂.trans hclock₁⟩,
    fun failure hfailure => ?_⟩
  · have hpart : (Bus.readFifo r₂.clock len r₂.bus).2.part = { r₂.part with readFifo := [] } :=
      congrArg Prod.snd htake
    show Part.Idled r₂.part (Bus.readFifo r₂.clock len r₂.bus).2.part
    rw [hpart]
    exact ⟨⟨rfl, rfl, rfl, rfl⟩, rfl, rfl, rfl, id⟩
  · have houtcome : (Bus.readFifo r₂.clock len r₂.bus).1 = .ok taken := congrArg Prod.fst htake
    rw [houtcome] at hfailure
    cases hfailure

theorem ends_readPieces_of_quiet {size : Nat}
    (hmode : settings.readMode.check (Part.new config).features = .ok ())
    (hdepth : size ≤ config.readDepth) (addr len : Nat) (done : List UInt8) :
    ∀ {rig : Rig Watched}, Quiet config rig →
      Op.Ends (readPieces settings size addr len done) rig
        (fun _ r => Quiet config r ∧ r.clock = rig.clock) fun _ _ => False := by
  fun_induction readPieces (σ := Part) settings size addr len done with
  | case1 addr len done hdone =>
    intro rig hquiet
    rw [readPieces, dif_pos hdone]
    exact ⟨hquiet, rfl⟩
  | case2 addr len done hmore count =>
    rename_i ih
    intro rig hquiet
    rw [readPieces, dif_neg hmore]
    refine (ends_readPiece_of_quiet hquiet hmode (by omega)).bind ?_
    rintro piece r ⟨hquiet', hclock⟩
    refine (ih piece hquiet').imp ?_
    rintro _ last ⟨hquiet'', hclock'⟩
    exact ⟨hquiet'', hclock'.trans hclock⟩

theorem ends_read_of_quiet {addr len : Nat} (hquiet : Quiet config rig)
    (hmode : settings.readMode.check (Part.new config).features = .ok ())
    (hdepth : config.readDepth ≠ 0) (hcheck : checkRange addr len = .ok ()) :
    Op.Ends (read settings addr len) rig (fun _ r => Quiet config r ∧ r.clock = rig.clock)
      fun _ _ => False := by
  rw [read, Op.ends_bind, hcheck, Op.ends_check_ok, Op.ends_bind, Op.ends_inspect, Op.ends_bind,
    show Bus.features rig.bus = _ from hquiet.features_eq, hmode, Op.ends_check_ok, Op.ends_bind,
    Op.ends_inspect,
    show Bus.readDepth rig.bus = config.readDepth from
      congrArg Part.Config.readDepth hquiet.config_eq]
  exact ends_readPieces_of_quiet hmode (by omega) _ _ _ hquiet

/-! ## Acts -/

theorem ends_writeParam_of_quiet {opcode : UInt8} {value : UInt16} (hquiet : Quiet config rig)
    (hopcode : opcode ∈ [Opcode.writeStatus1, Opcode.writeStatus2, Opcode.writeStatus3])
    (htimeout : config.writeStatusTime ≤ settings.poll.timeout)
    (hclock : rig.clock.now + settings.poll.span config.writeStatusTime ≤ lastInstant) :
    Op.Ends (writeParam settings opcode value) rig
      (fun _ r => Quiet config r ∧
        r.clock.now = rig.clock.now + settings.poll.span config.writeStatusTime)
      fun _ _ => False := by
  have hregister : ∃ register, opcode = Part.writeStatusOpcode register := by
    simp only [List.mem_cons, List.not_mem_nil, or_false] at hopcode
    rcases hopcode with rfl | rfl | rfl
    · exact ⟨.one, rfl⟩
    · exact ⟨.two, rfl⟩
    · exact ⟨.three, rfl⟩
  obtain ⟨register, rfl⟩ := hregister
  refine ends_act_of_quiet hquiet (fun part hconfig hlisten hlatch => ?_) htimeout hclock
  rw [← hconfig]
  exact Part.setsToWork_writeRegister hlisten hlatch register value _

theorem ends_erase_of_quiet {unit : EraseUnit} {addr : Nat} (hquiet : Quiet config rig)
    (haddr : addr < addressSpace ∨ unit = .chip)
    (htimeout : (Part.new config).eraseTime unit ≤ settings.poll.timeout)
    (hclock : rig.clock.now + settings.poll.span ((Part.new config).eraseTime unit) ≤
      lastInstant) :
    Op.Ends (erase settings unit addr) rig
      (fun _ r => Quiet config r ∧
        r.clock.now = rig.clock.now + settings.poll.span ((Part.new config).eraseTime unit))
      fun _ _ => False := by
  have hact : ∀ r : Rig Watched, Quiet config r → r.clock.now = rig.clock.now →
      Op.Ends (act (Part.eraseCommand unit addr) settings.poll) r
        (fun _ last => Quiet config last ∧
          last.clock.now = rig.clock.now + settings.poll.span ((Part.new config).eraseTime unit))
        fun _ _ => False := by
    intro r hquiet' hnow
    rw [← hnow] at hclock ⊢
    refine ends_act_of_quiet hquiet' (fun part hconfig hlisten hlatch => ?_) htimeout hclock
    rw [← Part.eraseTime_congr (show part.config = (Part.new config).config from hconfig)]
    exact Part.setsToWork_erase hlisten hlatch unit addr
  by_cases hunit : unit = .chip
  · subst hunit
    refine Op.Ends.bind ((Op.ends_mapFailure _).2 (ends_waitReady_of_quiet _ hquiet)) ?_
    rintro _ r ⟨hquiet', hnow⟩
    exact (Op.ends_mapFailure _).2 (hact r hquiet' hnow)
  · rw [erase_eq_act hunit, Op.ends_bind, checkAddress, if_pos (haddr.resolve_right hunit),
      Op.ends_check_ok, Op.ends_mapFailure]
    exact hact rig hquiet rfl

/-! ## Resets -/

/-- A part that has been reset has nothing left to do but to recover. -/
theorem settling_of_reset {command : Command} (hquiet : Quiet config rig)
    (hpart : r.part = { (rig.part.heard command).reset rig.clock with
      transaction := some (.done 0) })
    (hattentive : r.bus.Attentive) :
    Settling config (rig.clock.now + config.resetRecoveryTime) r := by
  have hconfig : r.part.config = rig.part.config := by rw [hpart]; rfl
  have hfaults : r.part.faults = rig.part.faults := by rw [hpart]; rfl
  have hawake : r.part.poweredDown = rig.part.poweredDown := by rw [hpart]; rfl
  have hlatch : r.part.writeEnabled = false := by rw [hpart]; rfl
  have hdma : r.part.dma = rig.part.dma := by rw [hpart]; rfl
  have hbusy : r.part.busyUntil = 0 := by rw [hpart]; rfl
  have hdeaf : r.part.deafUntil = rig.clock.now + rig.part.config.resetRecoveryTime := by
    rw [hpart]
    rfl
  have hdone : r.part.transaction = some (.done 0) := by rw [hpart]
  refine ⟨hconfig.trans hquiet.config_eq, hfaults.trans hquiet.faults_eq, fun later => ?_, hlatch,
    hdma.trans hquiet.dma_eq, hawake.trans hquiet.listening.awake, Part.over_of_done hdone,
    hattentive⟩
  rw [Part.listening_iff, Part.deaf, Part.busy, hawake, hquiet.listening.awake, hfaults,
    hquiet.faults_eq, hbusy, hdeaf, hquiet.config_eq]
  simp

/-- Reset enable arms the reset. -/
theorem ends_resetEnable_of_quiet {mode : BusMode} (policy : PollPolicy)
    (hquiet : Quiet config rig) (hmode : mode.check (Part.new config).features = .ok ()) :
    Op.Ends (Sequence.singleCommand Opcode.resetEnable mode policy) rig
      (fun _ r => Quiet config r ∧ r.part.resetArmed = true ∧ r.clock = rig.clock)
      fun _ _ => False := by
  let command := (Command.simple Opcode.resetEnable).withMode mode
  rw [← hquiet.features_eq] at hmode
  have hissue := Part.issue_resetEnable (show command.mode.check _ = .ok () from hmode) rfl
    hquiet.listening
  refine (ends_transact_of_quiet policy hquiet hissue rfl
    (Part.idled_of_transaction _ _ _ _ _)).bind ?_
  rintro _ r ⟨hquiet', hpart, hclock⟩
  exact ⟨hquiet', by rw [hpart], hclock⟩

/-- An armed reset leaves the part recovering. -/
theorem ends_reset_of_quiet {mode : BusMode} (policy : PollPolicy) (hquiet : Quiet config rig)
    (hmode : mode.check (Part.new config).features = .ok ())
    (harmed : rig.part.resetArmed = true) :
    Op.Ends (Sequence.singleCommand Opcode.reset mode policy) rig
      (fun _ r => Settling config (rig.clock.now + config.resetRecoveryTime) r ∧
        r.clock = rig.clock) fun _ _ => False := by
  let command := (Command.simple Opcode.reset).withMode mode
  rw [← hquiet.features_eq] at hmode
  have hissue := Part.issue_reset_armed (show command.mode.check _ = .ok () from hmode) rfl
    hquiet.listening harmed
  refine (ends_transact_heard policy hquiet.attentive hquiet.listening hissue rfl
    hquiet.faults_eq).bind ?_
  rintro _ r ⟨-, hpart, hclock, hattentive⟩
  exact ⟨settling_of_reset hquiet hpart hattentive, hclock⟩

/-- A reset takes the time that a part is given to recover. -/
theorem ends_softReset_of_quiet {mode : BusMode} (hquiet : Quiet config rig)
    (hmode : mode.check (Part.new config).features = .ok ())
    (hrecovery : config.resetRecoveryTime ≤ resetSettle)
    (hclock : rig.clock.now + resetSettle ≤ lastInstant) :
    Op.Ends (softReset settings mode) rig
      (fun _ r => Quiet config r ∧ r.clock.now = rig.clock.now + resetSettle) fun _ _ => False := by
  rw [softReset, Op.ends_bind, Op.ends_inspect, Op.ends_bind,
    show Bus.features rig.bus = _ from hquiet.features_eq, hmode, Op.ends_check_ok]
  refine (ends_resetEnable_of_quiet _ hquiet hmode).bind ?_
  rintro _ r₁ ⟨hquiet₁, harmed, hclock₁⟩
  refine (ends_reset_of_quiet _ hquiet₁ hmode harmed).bind ?_
  rintro _ r₂ ⟨hsettling, hclock₂⟩
  rw [hclock₁] at hsettling hclock₂
  have hnow : (r₂.clock.delay resetSettle).now = rig.clock.now + resetSettle := by
    have hdelay : max resetSettle 1 = resetSettle := by decide
    rw [hclock₂, Clock.delay, Clock.advance, hdelay]
    exact Nat.min_eq_left hclock
  refine ⟨(hsettling.pass (r₂.clock.delay resetSettle)).quiet ?_, hnow⟩
  show rig.clock.now + config.resetRecoveryTime ≤ (r₂.clock.delay resetSettle).now
  omega

end Flash.Controller

end CardReader
