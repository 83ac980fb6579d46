import CardReader.Proofs.Part.Books
import CardReader.Proofs.Walk.Operations

/-!
# The transactions of a program

How many program commands an operation issues on its way to an answer.  Write enables and reads of
the status go out under opcodes of their own, and what moves data is no command at all; so in the
walk that counts program commands every piece of a plan is one, and so is a page that is streamed,
however often its data is topped up.

What is proved here:

* `respects_frame` — a call that leaves the frame of a part alone does not count;
* `trafficWalk` — the walk that counts program commands;
* `ends_program_traffic` and `ends_programOnePage_traffic` — a program issues one command for each
  piece of its plan, and a page that is not empty takes one.
-/

namespace CardReader.Flash

open Op Sequence
open CardReader.Part (Traffic traffic_issue writesStatus)

/-! ## Counts -/

/-- A call that leaves the frame of the part alone does not count. -/
theorem respects_frame {α : Type} {opcode : UInt8} {method : Clock → Part → Except Failure α × Part}
    (h : ∀ clock part, (method clock part).2.frame = part.frame) :
    Respects (fun _ => True) (fun count before after => Traffic opcode count before.bus after.bus)
      (fun _ => True) 0 (call method) :=
  fun _ _ => (ends_call method).2
    ⟨fun _ _ => ⟨trivial, .of_frame (h _ _)⟩, fun _ _ => ⟨trivial, trivial⟩⟩

/-- Whenever it answers, an operation has issued so many program commands, under the opcode of the
mode, and left the status registers alone. -/
def trafficLaw (config : ControllerConfig) : Law Part where
  Inv _ := True
  Step count before after := Traffic config.programMode.programOpcode count before.bus after.bus
  Allows _ := True
  Sends command count := writesStatus command.instruction = false ∧
    (if command.opcode = config.programMode.programOpcode then 1 else 0) = count
  allows_of_isTimeout _ := trivial
  step_refl _ := .of_frame rfl
  step_add := .trans
  respects_delay _ _ _ := ⟨trivial, .of_frame rfl⟩
  respects_report _ _ _ := ⟨trivial, .of_frame rfl⟩
  respects_params _ _ _ := ⟨trivial, .of_frame rfl⟩
  respects_flush _ _ := ⟨trivial, .of_frame rfl⟩
  respects_issue := by
    rintro command _ ⟨hstatus, rfl⟩ rig -
    exact (ends_call _).2 ⟨fun _ _ => ⟨trivial, traffic_issue hstatus _ rig.bus⟩,
      fun _ _ => ⟨trivial, trivial⟩⟩
  respects_pollDone := respects_frame Part.frame_pollDone

/-! ## Programs -/

namespace Controller

/-- The program command counts, whatever its mode is. -/
theorem sends_programCommand (config : ControllerConfig) (addr len : Nat) :
    (trafficLaw config).Sends (programCommand config addr len) 1 := by
  refine ⟨?_, if_pos rfl⟩
  rw [programCommand, Part.instruction_program]
  rfl

/-- A read is no program command, whatever the two modes are. -/
theorem sends_readCommand (config : ControllerConfig) (addr len : Nat) :
    (trafficLaw config).Sends (readCommand config addr len) 0 := by
  refine ⟨?_, if_neg ?_⟩
  · rw [readCommand, Part.instruction_read]
    rfl
  · show ¬config.readMode.readOpcode = config.programMode.programOpcode
    cases config.readMode <;> cases config.programMode <;> decide

/-- The walk that counts program commands.  Its waits for the part are free. -/
def trafficWalk (config : ControllerConfig) : Walk Part Part config where
  toRules := (trafficLaw config).rules
  Stages _ := True
  Fetches _ := True
  cost := 1
  wait := 0
  allows_programFailure _ _ := trivial
  allows_dmaNotSupported _ _ := trivial
  sends_writeEnable := ⟨rfl, if_neg (by cases config.programMode <;> decide)⟩
  sends_programCommand _ := sends_programCommand config
  rel_waitReady := (trafficLaw config).rules.rel_waitReady
    ⟨rfl, if_neg (by cases config.programMode <;> decide)⟩ config.poll
  rel_stage _ hnext := (trafficLaw config).rules.rel_stage
    (fun data => respects_frame fun clock => Part.frame_queue clock data) hnext
  rel_load _ addr data := by
    let law := trafficLaw config
    have hrelease : law.Rel 0 (update (Bus.dmaRelease config.dmaChannel)) :=
      fun rig _ => ⟨trivial, .of_frame (Part.frame_dmaRelease _ rig.bus)⟩
    refine law.rel_withChannel trivial
      (respects_frame fun _ => Part.frame_dmaAcquire config.dmaChannel) hrelease ?_
    exact law.rules.rel_feedChannel (respects_frame fun clock => Part.frame_dmaStart clock _ data)
      (law.rel_idleProbe config.dmaChannel) (sends_programCommand config addr data.length)
  rel_refill _ opcode := (trafficLaw config).rules.rel_refill
    (fun data => respects_frame fun clock => Part.frame_queue clock data)
    (fun _ => (trafficLaw config).rel_inspect _) opcode _
  rel_readPiece _ _ _ addr := (trafficLaw config).rules.rel_readPiece
    (fun len => (trafficLaw config).rules.rel_mapFailure
      (fun _ _ => trivial) (respects_frame fun _ => Part.frame_take len))
    (sends_readCommand config addr _)

/-- Nothing is forbidden where commands are only counted. -/
theorem passes_trafficWalk (config : ControllerConfig) (call : Call) :
    (trafficWalk config).Passes call :=
  (trafficWalk config).passes_of_allows (fun _ => trivial) (fun _ => trivial) (fun _ => trivial)
    call

/-- A program issues one command for each piece of its plan. -/
theorem ends_program_traffic (config : ControllerConfig) (base : Nat) (payload : List UInt8)
    (useDma : Bool) (cipher : CipherMode) (rig : Rig Part) :
    Op.Ends (program config base payload useDma cipher) rig
      (fun _ r => Traffic config.programMode.programOpcode
        (plan base useDma (Cipher.encipher payload cipher)).length rig.bus r.bus)
      fun _ _ => True := by
  obtain ⟨hcheck, hmode, hstages⟩ :=
    passes_trafficWalk config (.program base payload useDma cipher)
  have hprogram : Op.Ends (program config base payload useDma cipher) rig _ _ :=
    (trafficWalk config).rel_program hcheck hmode hstages rig trivial
  refine hprogram.mono (fun _ r hr => ?_) fun _ _ _ => trivial
  rw [← Nat.mul_one (List.length _)]
  exact hr.2

/-- A page is one program command, if there is anything in it. -/
theorem ends_programOnePage_traffic (config : ControllerConfig) {payload : List UInt8}
    (hpayload : payload ≠ []) (addr : Nat) (rig : Rig Part) :
    Op.Ends (programOnePage config addr payload) rig
      (fun _ r => Traffic config.programMode.programOpcode 1 rig.bus r.bus) fun _ _ => True := by
  obtain ⟨hrange, halign, hmode, hstages⟩ :=
    passes_trafficWalk config (.programOnePage addr payload)
  have hpage : (trafficWalk config).Rel _ (programOnePage config addr payload) _ :=
    (trafficWalk config).rel_programOnePage hrange halign hmode hstages
  rw [if_neg (by rwa [List.isEmpty_iff])] at hpage
  exact (hpage rig trivial).mono (fun _ _ hr => hr.2) fun _ _ _ => trivial

end Controller

end CardReader.Flash
