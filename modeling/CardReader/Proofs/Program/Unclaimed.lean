import CardReader.Proofs.Program.Completion
import CardReader.Proofs.Rejections

/-!
# Programs without a channel

A controller without any DMA channel is found out before anything is sent.  One that has channels,
but not the one that the settings name, is not: its features do not tell, so the first write enable
is on its way by the time that the claim is refused, and a part that has heard it keeps its latch.

What is proved here:

* `ends_programChunkDma_of_missing` — a chunk for a channel that does not exist sends its write
  enable and nothing more;
* `ends_program_of_missing` — so does a program, with the first chunk of its plan;
* `program_without_channel` — when a program is refused for want of a DMA path, and what it has
  done by then.
-/

namespace CardReader

open Flash

namespace Flash.Controller

/-! ## What is left behind -/

/-- Nothing has been sent: no command is in the log that was not there before, and array, latch,
FIFOs and clock are as they were. -/
structure Unsent (rig after : Rig Part) : Prop where
  log_eq : after.bus.log = rig.bus.log
  cells_eq : after.bus.cells = rig.bus.cells
  writeEnabled_eq : after.bus.writeEnabled = rig.bus.writeEnabled
  readFifo_eq : after.bus.readFifo = rig.bus.readFifo
  writeFifo_eq : after.bus.writeFifo = rig.bus.writeFifo
  clock_eq : after.clock = rig.clock

/-- One write enable has been sent and nothing else: array, FIFOs and clock are as they were, and
the latch is set if the part was listening. -/
structure OnlyEnabled (rig after : Rig Part) : Prop where
  log_eq : after.bus.log = rig.bus.log.push Part.writeEnableCommand
  cells_eq : after.bus.cells = rig.bus.cells
  writeEnabled_eq : after.bus.writeEnabled =
    (rig.bus.writeEnabled || decide (Part.Listening rig.clock rig.bus))
  readFifo_eq : after.bus.readFifo = rig.bus.readFifo
  writeFifo_eq : after.bus.writeFifo = rig.bus.writeFifo
  clock_eq : after.clock = rig.clock

theorem OnlyEnabled.not_unsent {rig after : Rig Part} (h : OnlyEnabled rig after) :
    ¬Unsent rig after := by
  intro hunsent
  have hsize := congrArg Array.size (h.log_eq.symm.trans hunsent.log_eq)
  rw [Array.size_push] at hsize
  omega

/-- The controller has DMA channels, but not the one that the settings name. -/
structure Misses (config : ControllerConfig) (part : Part) : Prop where
  some_channel : 0 < part.config.dmaChannels
  no_channel : part.config.dmaChannels ≤ config.dmaChannel

section Missing

variable {config : ControllerConfig} {rig : Rig Part}

/-! ## Chunks -/

/-- A write enable takes no time and changes nothing but the latch; the controller may never report
it as over. -/
theorem ends_writeEnable_only (rig : Rig Part) (policy : PollPolicy) :
    Op.Ends (Sequence.writeEnable .single policy) rig
      (fun _ r => OnlyEnabled rig r ∧ r.bus.config = rig.bus.config ∧
        rig.bus.faults.unresponsive = false)
      (fun failure _ => failure = .commandTimeout Opcode.writeEnable ∧
        rig.bus.faults.unresponsive = true) := by
  obtain ⟨value, resetArmed, hissue⟩ := Part.issue_writeEnable_eq rig.clock rig.bus
  rw [Sequence.writeEnable, Sequence.singleCommand, Op.ends_bind]
  refine (ends_transact policy hissue rfl).mono ?_ ?_
  · rintro done r ⟨-, hpart, habreast, hresponse⟩
    have hbus : r.bus = _ := hpart
    refine ⟨⟨?_, ?_, ?_, ?_, ?_, habreast.clock_eq⟩, ?_, hresponse⟩
    all_goals rw [hbus]
  · rintro failure r ⟨-, -, hreason⟩
    exact hreason.resolve_left id

/-- The claim of a channel that does not exist is refused, and leaves everything as it is. -/
theorem ends_withChannel_of_missing {α : Type} {body : Op Part α} {r : Rig Part}
    (hmisses : Misses config r.bus) :
    Op.Ends (Sequence.withChannel config.dmaChannel body) r (fun _ _ => False)
      fun failure last => failure = .dmaNotSupported ∧ last = r := by
  have hfeature : (Bus.features r.bus).dma = true := decide_eq_true hmisses.some_channel
  have hacquire : Part.dmaAcquire config.dmaChannel r.bus = (.error .dmaNotSupported, r.bus) :=
    if_pos hmisses.no_channel
  rw [Sequence.withChannel, Op.ends_bind, Op.ends_inspect, if_pos hfeature]
  exact Op.ends_bind.2 ((Op.ends_of_error (Op.call_eq hacquire)).2 ⟨rfl, rfl⟩)

/-- A chunk for a channel that does not exist is given up after its write enable. -/
theorem ends_programChunkDma_of_missing (hmisses : Misses config rig.bus) (addr : Nat)
    (data : List UInt8) :
    Op.Ends (programChunkDma config addr data) rig (fun _ _ => False)
      fun failure r =>
        failure = .dmaNotSupported ∧ OnlyEnabled rig r ∧ rig.bus.faults.unresponsive = false ∨
          failure = .commandTimeout Opcode.writeEnable ∧ rig.bus.faults.unresponsive = true := by
  rw [programChunkDma, Op.ends_bind]
  refine (ends_writeEnable_only rig config.poll).mono ?_ fun _ _ => .inr
  rintro _ r ⟨honly, hconfig, hresponse⟩
  have hmisses' : Misses config r.bus := by
    refine ⟨?_, ?_⟩
    · rw [hconfig]
      exact hmisses.some_channel
    · rw [hconfig]
      exact hmisses.no_channel
  refine Op.ends_bind.2 ((ends_withChannel_of_missing hmisses').mono (fun _ _ h => h.elim) ?_)
  rintro failure last ⟨hfailure, rfl⟩
  exact .inl ⟨hfailure, honly, hresponse⟩

/-! ## Programs -/

variable {base : Nat} {payload : List UInt8} {cipher : CipherMode}

/-- A program for a channel that does not exist gets no further than the write enable of its first
chunk. -/
theorem ends_program_of_missing (hmisses : Misses config rig.bus)
    (hpasses : Passes config base payload true cipher (Bus.features rig.bus))
    (hpayload : payload ≠ []) :
    Op.Ends (program config base payload true cipher) rig (fun _ _ => False)
      fun failure r =>
        failure = .dmaNotSupported ∧ OnlyEnabled rig r ∧ rig.bus.faults.unresponsive = false ∨
          failure ≠ .dmaNotSupported ∧ rig.bus.faults.unresponsive = true := by
  have hplan : plan base true (Cipher.encipher payload cipher) ≠ [] := by
    rw [ne_eq, ← List.isEmpty_iff, plan_isEmpty hpasses, List.isEmpty_iff]
    exact hpayload
  have hcarries : Carries config true (plan base true (Cipher.encipher payload cipher))
      (fun sent r => sent = [] ∧ r.bus = rig.bus ∧ r.clock = rig.clock)
      fun failure r =>
        failure = .dmaNotSupported ∧ OnlyEnabled rig r ∧ rig.bus.faults.unresponsive = false ∨
          failure ≠ .dmaNotSupported ∧ rig.bus.faults.unresponsive = true := by
    refine ⟨fun _ _ _ h => h, ?_⟩
    rintro _ piece rest r - ⟨rfl, hbus, hclock⟩
    refine (ends_programChunkDma_of_missing (hbus ▸ hmisses) piece.addr piece.data).mono
      (fun _ _ h => h.elim) ?_
    rintro failure last (⟨rfl, ⟨hlog, hcells, hlatch, hread, hwrite, htime⟩, hresponse⟩ | hsilent)
    · rw [hbus] at hlog hcells hlatch hread hwrite hresponse
      rw [hclock] at hlatch htime
      exact .inl ⟨rfl, ⟨hlog, hcells, hlatch, hread, hwrite, htime⟩, hresponse⟩
    · obtain ⟨rfl, hunresponsive⟩ := hsilent
      rw [hbus] at hunresponsive
      exact .inr ⟨nofun, hunresponsive⟩
  refine (ends_program_of_passes hpasses ⟨rfl, rfl, rfl⟩ hcarries).mono ?_ fun _ _ h => h
  rintro stats r ⟨-, hnil, -⟩
  exact hplan hnil

/-! ## Refusals -/

/-- There is no DMA path for the payload: the controller has no channel, or it lacks the one that is
named and the first write enable comes to its end. -/
inductive NoPath (config : ControllerConfig) (payload : List UInt8) (part : Part) : Prop
  | unsupported (hnone : part.config.dmaChannels = 0)
  | missing (hmisses : Misses config part)
    (hmode : config.programMode.check part.features = .ok ()) (hpayload : payload ≠ [])
    (hresponse : part.faults.unresponsive = false)

/-- A program that has been refused for want of a DMA path has left the rig as it was, or has sent a
write enable if there are channels at all. -/
inductive Refused (rig : Rig Part) : Rig Part → Prop
  | unsupported (hnone : rig.bus.config.dmaChannels = 0) : Refused rig rig
  | missing {after : Rig Part} (hsome : 0 < rig.bus.config.dmaChannels)
    (honly : OnlyEnabled rig after) : Refused rig after

/-- A controller without a channel is found out by its features. -/
theorem program_of_unsupported (hcheck : checkProgram base payload cipher = .ok ())
    (hnone : rig.bus.config.dmaChannels = 0) :
    program config base payload true cipher rig = (.error .dmaNotSupported, rig) := by
  have hfeature : (Bus.features rig.bus).dma = false := by
    refine decide_eq_false ?_
    rw [hnone]
    exact Nat.lt_irrefl 0
  rw [program, hcheck]
  show (if (true && !(Bus.features rig.bus).dma) = true then Op.fail .dmaNotSupported >>= _
    else _ : Op Part ProgramStats) rig = _
  rw [hfeature]
  rfl

/-- An empty payload needs no channel. -/
theorem ends_program_of_nil {useDma : Bool} {rig : Rig Part}
    (hpasses : Passes config base [] useDma cipher (Bus.features rig.bus)) :
    Op.Ends (program config base [] useDma cipher) rig (fun _ _ => True) fun _ _ => False := by
  have hplan : plan base useDma (Cipher.encipher [] cipher) = [] :=
    List.isEmpty_iff.1 (plan_isEmpty hpasses)
  have hcarries : Carries config useDma (plan base useDma (Cipher.encipher [] cipher))
      (fun _ (_ : Rig Part) => True) fun _ _ => False := by
    refine ⟨fun _ _ _ h => h, ?_⟩
    intro sent piece rest r hsplit
    rw [hplan] at hsplit
    exact absurd hsplit.symm (List.append_ne_nil_of_right_ne_nil sent (List.cons_ne_nil piece rest))
  exact (ends_program_of_passes hpasses trivial hcarries).mono (fun _ _ _ => trivial)
    fun _ _ h => h

/-- A program whose range is accepted is refused for want of a DMA path if there is none, and is
not otherwise. -/
theorem ends_program_of_dma (hcheck : checkProgram base payload cipher = .ok ()) :
    Op.Ends (program config base payload true cipher) rig
      (fun _ _ => ¬NoPath config payload rig.bus)
      fun failure r => failure = .dmaNotSupported ∧ NoPath config payload rig.bus ∧ Refused rig r ∨
        failure ≠ .dmaNotSupported ∧ ¬NoPath config payload rig.bus := by
  by_cases hnone : rig.bus.config.dmaChannels = 0
  · exact (Op.ends_of_error (program_of_unsupported hcheck hnone)).2
      (.inl ⟨rfl, .unsupported hnone, .unsupported hnone⟩)
  have hsome : 0 < rig.bus.config.dmaChannels := Nat.pos_of_ne_zero hnone
  by_cases hmode : config.programMode.check rig.bus.features = .ok ()
  · have hpasses : Passes config base payload true cipher (Bus.features rig.bus) :=
      ⟨hcheck, fun _ => decide_eq_true hsome, hmode⟩
    by_cases hchannel : config.dmaChannel < rig.bus.config.dmaChannels
    · have hpath : ¬NoPath config payload rig.bus := by
        rintro (hzero | ⟨⟨-, hless⟩, -, -, -⟩)
        · exact hnone hzero
        · exact Nat.not_le.2 hchannel hless
      refine (ends_program_underWay hpasses).mono (fun _ _ _ => hpath) ?_
      intro failure r hfailure
      exact .inr ⟨fun hdma => Nat.not_le.2 hchannel (hfailure.no_channel hdma), hpath⟩
    have hmisses : Misses config rig.bus := ⟨hsome, Nat.le_of_not_lt hchannel⟩
    by_cases hpayload : payload = []
    · subst hpayload
      refine (ends_program_of_nil hpasses).mono ?_ fun _ _ h => h.elim
      rintro _ _ - (hzero | ⟨-, -, hempty, -⟩)
      · exact hnone hzero
      · exact hempty rfl
    · refine (ends_program_of_missing hmisses hpasses hpayload).mono (fun _ _ h => h.elim) ?_
      rintro failure r (⟨hfailure, honly, hresponse⟩ | ⟨hfailure, hsilent⟩)
      · exact .inl ⟨hfailure, .missing hmisses hmode hpayload hresponse, .missing hsome honly⟩
      · refine .inr ⟨hfailure, ?_⟩
        rintro (hzero | ⟨-, -, -, hresponse⟩)
        · exact hnone hzero
        · rw [hsilent] at hresponse
          cases hresponse
  · have hpath : ¬NoPath config payload rig.bus := by
      rintro (hzero | ⟨-, hsupported, -, -⟩)
      · exact hnone hzero
      · exact hmode hsupported
    have hclaim : ¬(true && !(Bus.features rig.bus).dma) = true := by
      rw [show (Bus.features rig.bus).dma = true from decide_eq_true hsome]
      exact Bool.false_ne_true
    rw [program, Op.ends_bind, hcheck, Op.ends_check_ok, Op.ends_bind, Op.ends_inspect,
      if_neg hclaim, Op.ends_bind, Op.ends_check]
    refine ⟨fun _ hsupported => absurd hsupported hmode, fun failure hrefused => .inr ⟨?_, hpath⟩⟩
    rw [BusMode.check_error hrefused]
    intro hdma
    cases hdma

end Missing

/-! ## The result of a program by DMA -/

/-- A program by DMA is refused for want of a DMA path if its range is accepted and the controller
has no channel, or has channels but not the one of the settings, can drive the mode, has something
to program and sees its write enable through.  Nothing has been sent by then, and everything is as
it was, exactly if the controller has no channel at all; otherwise the first write enable has been
sent and nothing else, and a part that was listening keeps its latch set. -/
theorem program_without_channel (config : ControllerConfig) (base : Nat) (payload : List UInt8)
    (cipher : CipherMode) (rig : Rig Part) :
    let ended := program config base payload true cipher rig
    (ended.1 = .error .dmaNotSupported ↔
      checkProgram base payload cipher = .ok () ∧ NoPath config payload rig.bus) ∧
    (ended.1 = .error .dmaNotSupported →
      (Unsent rig ended.2 ↔ rig.bus.config.dmaChannels = 0) ∧
        (rig.bus.config.dmaChannels = 0 → ended.2 = rig) ∧
        (rig.bus.config.dmaChannels ≠ 0 → OnlyEnabled rig ended.2)) := by
  intro ended
  by_cases hcheck : checkProgram base payload cipher = .ok ()
  · have hends : Op.Ends (program config base payload true cipher) rig _ _ :=
      ends_program_of_dma hcheck
    cases hrun : ended with
    | mk outcome after =>
      cases outcome with
      | ok stats =>
        have hpath := (Op.ends_of_ok hrun).1 hends
        exact ⟨⟨nofun, fun h => absurd h.2 hpath⟩, nofun⟩
      | error failure =>
        rcases (Op.ends_of_error hrun).1 hends with ⟨rfl, hpath, hrefused⟩ | ⟨hother, hpath⟩
        · refine ⟨⟨fun _ => ⟨hcheck, hpath⟩, fun _ => rfl⟩, fun _ => ?_⟩
          cases hrefused with
          | unsupported hnone =>
            exact ⟨⟨fun _ => hnone, fun _ => ⟨rfl, rfl, rfl, rfl, rfl, rfl⟩⟩, fun _ => rfl,
              fun hsome => absurd hnone hsome⟩
          | missing hsome honly =>
            have hne : rig.bus.config.dmaChannels ≠ 0 := Nat.pos_iff_ne_zero.1 hsome
            exact ⟨⟨fun hunsent => absurd hunsent honly.not_unsent, fun hnone => absurd hnone hne⟩,
              fun hnone => absurd hnone hne, fun _ => honly⟩
        · have hne : (Except.error failure : Except Failure ProgramStats) ≠
              .error .dmaNotSupported := fun h => hother (Except.error.inj h)
          exact ⟨⟨fun h => absurd h hne, fun h => absurd h.2 hpath⟩, fun h => absurd h hne⟩
  · have hother : ended.1 ≠ .error .dmaNotSupported := by
      cases hrefused : checkProgram base payload cipher with
      | ok => exact absurd hrefused hcheck
      | error failure =>
        have hended : ended.1 = .error failure := by
          show (Op.bind (Op.check (checkProgram base payload cipher)) _ rig).1 = _
          rw [hrefused]
          rfl
        rw [hended]
        obtain rfl | rfl := checkProgram_error hrefused
        all_goals exact nofun
    exact ⟨⟨fun h => absurd h hother, fun h => absurd h.1 hcheck⟩, fun h => absurd h hother⟩

/-- A part at work, whose controller has one channel and is told to use the second, has the write
enable in its log, and has let it pass by. -/
theorem program_without_channel_at_work :
    let rig : Rig Part :=
      { bus := { Part.new { size := 4096 } with busyUntil := 700 }, clock := .start }
    let ended := program { dmaChannel := 1 } 0 [0x7F] true .none rig
    ended.1 = .error .dmaNotSupported ∧ ended.2.bus.log = #[Part.writeEnableCommand] ∧
      ended.2.bus.writeEnabled = false := by
  intro rig ended
  have hmisses : Misses { dmaChannel := 1 } rig.bus := ⟨by decide, by decide⟩
  have hresult := program_without_channel { dmaChannel := 1 } 0 [0x7F] .none rig
  have hrefused : ended.1 = .error .dmaNotSupported :=
    hresult.1.2 ⟨rfl, .missing hmisses rfl (List.cons_ne_nil _ _) rfl⟩
  have honly : OnlyEnabled rig ended.2 := (hresult.2 hrefused).2.2 (by decide)
  refine ⟨hrefused, honly.log_eq, ?_⟩
  rw [honly.writeEnabled_eq]
  decide

/-- A new part with one channel is told to use the fourth: the program is refused as one without a
DMA path, but by then the write enable has been sent, and the latch stays set. -/
theorem program_sends_before_refusal :
    let rig : Rig Part := { bus := Part.new { size := 4096 }, clock := .start }
    Part.Config.validate rig.bus.config = .ok () ∧
      ∃ after, program { dmaChannel := 3 } 0 [0] true .none rig = (.error .dmaNotSupported, after) ∧
        rig.bus.log.size = 0 ∧ after.bus.log.size = 1 ∧
        rig.bus.writeEnabled = false ∧ after.bus.writeEnabled = true := by
  intro rig
  have hmisses : Misses { dmaChannel := 3 } rig.bus := ⟨by decide, by decide⟩
  have hpasses : Passes { dmaChannel := 3 } 0 [0] true .none (Bus.features rig.bus) :=
    ⟨rfl, fun _ => rfl, rfl⟩
  have hends : Op.Ends (program { dmaChannel := 3 } 0 [0] true .none) rig _ _ :=
    ends_program_of_missing hmisses hpasses (List.cons_ne_nil _ _)
  obtain ⟨failure, after, hrun, ⟨rfl, honly, -⟩ | ⟨-, hsilent⟩⟩ := hends.exists_error
  · refine ⟨Part.Config.validate_eq_ok_iff.2 (by decide), after, hrun, rfl, ?_, rfl, ?_⟩
    · rw [honly.log_eq]
      rfl
    · rw [honly.writeEnabled_eq]
      decide
  · cases hsilent

end Flash.Controller

end CardReader
