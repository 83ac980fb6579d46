import CardReader.Proofs.Part.Shape
import CardReader.Proofs.Walk.Operations

/-!
# Failures of a part

Each call of a part fails in a few ways only, and an operation fails as one of its calls does or
because a wait has run out.  On which terms operations deal with a part is said by the ways in which
they may fail; as long as these include what the calls at hand can meet with, every operation keeps
the shape of the part and fails on these terms.

What is proved here:

* `Part.issue_error`, `Part.queue_error` and their companions — how the calls of a part can fail,
  and `Part.queue_ne_error`, `Part.issue_read_fills` and theirs — when they do not;
* `Terms.rel_withChannel` — a channel is claimed and given back, or refused;
* `Terms.walk` — so there is a walk for any terms, and `Terms.sends_of_mem_commands` — the commands
  that it may send.
-/

namespace CardReader

open Flash

/-! ## Failures of the calls of a part -/

namespace Part

variable {clock : Clock} {command : Command} {part : Part} {failure : Failure}

/-- The read FIFO has no room for what the command reads. -/
def Overflows (command : Command) (part : Part) : Prop :=
  command.instruction = .read ∧ part.config.readDepth < command.dataLength

theorem perform_error {armed : Bool}
    (h : (perform clock command armed part).1 = .error failure) :
    failure = .fifoOverflow ∧ Overflows command part := by
  unfold perform at h
  cases hinstruction : command.instruction with
  | read =>
    rw [hinstruction] at h
    unfold fetch at h
    by_cases hdepth : part.config.readDepth < command.dataLength
    · simp only [if_pos hdepth] at h
      exact ⟨(Except.error.inj h).symm, hinstruction, hdepth⟩
    · simp only [if_neg hdepth] at h
      cases h
  | _ =>
    rw [hinstruction] at h
    cases h

theorem execute_error (h : (execute clock command part).1 = .error failure) :
    failure = .fifoOverflow ∧ Overflows command part := by
  unfold execute at h
  split at h
  · split at h <;> cases h
  split at h
  · split at h <;> cases h
  simp only at h
  split at h
  · cases h
  · have hperform := perform_error h
    exact hperform

/-- A command in a mode that the controller can drive fails only for want of room in the read
FIFO. -/
theorem issue_error_of_mode (hmode : command.mode.check part.features = .ok ())
    (h : (issue clock command part).1 = .error failure) :
    failure = .fifoOverflow ∧ Overflows command part := by
  rw [issue_eq_execute hmode] at h
  cases hexecute : execute clock command (part.logged command) with
  | mk outcome after =>
    cases outcome with
    | ok transaction =>
      rw [hexecute] at h
      cases h
    | error other =>
      rw [hexecute] at h
      have hother : (execute clock command (part.logged command)).1 = .error other := by
        rw [hexecute]
      rw [← Except.error.inj h]
      have hexecuted := execute_error hother
      exact hexecuted

/-- A command fails if the controller cannot drive its mode, or for want of room. -/
theorem issue_error (h : (issue clock command part).1 = .error failure) :
    failure = .busModeNotSupported ∧
        command.mode.check part.features = .error .busModeNotSupported ∨
      failure = .fifoOverflow ∧ Overflows command part := by
  cases hmode : command.mode.check part.features with
  | ok => exact .inr (issue_error_of_mode hmode h)
  | error other =>
    rw [issue_of_refused hmode] at h
    obtain rfl := BusMode.check_error hmode
    exact .inl ⟨(Except.error.inj h).symm, rfl⟩

theorem queue_error {data : List UInt8} (h : (queue clock data part).1 = .error failure) :
    failure = .fifoOverflow := by
  unfold queue at h
  split at h
  · exact (Except.error.inj h).symm
  · cases h

theorem pollDone_ne_error (clock : Clock) (part : Part) (failure : Failure) :
    (pollDone clock part).1 ≠ .error failure := by
  intro h
  unfold pollDone at h
  split at h
  · cases h
  · simp only at h
    split at h <;> cases h

/-- A command without a data phase reads nothing. -/
theorem not_overflows_of_dataLength (h : command.dataLength = 0) : ¬Overflows command part := by
  rintro ⟨-, hlt⟩
  omega

/-- The write FIFO has room for what is queued. -/
theorem queue_ne_error {data : List UInt8}
    (hroom : data.length ≤ part.config.writeDepth - part.writeFifo.length) (failure : Failure) :
    (queue clock data part).1 ≠ .error failure := by
  rw [queue, if_neg (Nat.not_lt.2 hroom)]
  intro h
  cases h

/-- A block is taken by the channel that is claimed. -/
theorem dmaStart_ne_error {channel : Nat} {block : List UInt8}
    (hclaim : part.shape.claim = some channel) (failure : Failure) :
    (dmaStart clock channel block part).1 ≠ .error failure := by
  obtain ⟨claim, hdma, hchannel⟩ := Option.map_eq_some_iff.1 hclaim
  rw [dmaStart, hdma]
  simp only [if_pos hchannel]
  intro h
  cases h

/-- A part whose only claim is given back has none. -/
theorem shape_release {channel : Nat} {before : Part} (hfree : before.dma = none)
    (h : part.shape = ({ before with dma := some { channel } } : Part).shape) :
    (part.dmaRelease channel).shape = before.shape := by
  simp only [Part.shape, Part.Shape.mk.injEq, Option.map_some] at h
  obtain ⟨hconfig, hsize, hclaim⟩ := h
  obtain ⟨claim, hdma, rfl⟩ := Option.map_eq_some_iff.1 hclaim
  rw [Part.dmaRelease, hdma]
  simp [Part.shape, hconfig, hsize, hfree]

variable (clock) in
/-- Whether the part listens or lets the lines float, a read leaves as many bytes as it asks for. -/
theorem issue_read_fills {settings : ControllerConfig} {len : Nat} (addr : Nat)
    (hmode : settings.readMode.check part.features = .ok ()) (hroom : len ≤ part.config.readDepth) :
    ∃ value issued, issue clock (Controller.readCommand settings addr len) part =
        (.ok (), issued) ∧ issued.transaction = some (.done value) ∧
      issued.readFifo.length = len := by
  let command := Controller.readCommand settings addr len
  have hinstruction : command.instruction = .read := instruction_read _ _ _ _
  by_cases hlisten : Listening clock part
  · exact ⟨0, _, issue_read addr hmode hlisten hroom, rfl, Cells.length_slice _ _ _⟩
  -- the command is ignored, and all ones are read
  have hignored : ∀ part : Part, ∃ value after, part.ignore command = (.ok (.done value), after) ∧
      after.readFifo.length = len := by
    intro part
    have hfills : command.format.fillsReadFifo = true := by
      show (if settings.readMode.readDummyCycles = 0 then FrameFormat.addressReadData
        else .addressDummyReadData).fillsReadFifo = true
      split <;> rfl
    rw [ignore, float, if_pos hfills]
    exact ⟨_, _, rfl, List.length_replicate⟩
  suffices h : ∃ value after, execute clock command (part.logged command) =
      (.ok (.done value), after) ∧ after.readFifo.length = len by
    obtain ⟨value, after, hexecute, hlength⟩ := h
    refine ⟨value, { after with transaction := some (.done value) }, ?_, rfl, hlength⟩
    rw [issue_eq_execute (show command.mode.check part.features = .ok () from hmode), hexecute]
  rw [execute, hinstruction]
  by_cases hpower : (part.logged command).poweredDown = true
  · rw [if_pos hpower, if_neg (by decide)]
    exact hignored _
  rw [if_neg hpower]
  by_cases hdeaf : deaf clock (part.logged command) = true
  · rw [if_pos hdeaf, if_neg (by decide)]
    exact hignored _
  have hbusy : busy clock { part.logged command with resetArmed := false } = true := by
    refine Bool.of_not_eq_false fun hidle => hlisten ⟨?_, ?_, hidle⟩
    · exact Bool.eq_false_iff.2 hpower
    · exact Bool.eq_false_iff.2 hdeaf
  rw [if_neg hdeaf]
  simp only [hbusy, answersWhileBusy, Bool.not_false, Bool.and_self, if_true]
  exact hignored _

end Part

namespace Flash

open Op Sequence Controller

/-! ## Terms -/

/-- How operations may fail on parts of one shape.  A wait may always run out. -/
structure Terms where
  /-- A part of this shape. -/
  before : Part
  /-- The failures. -/
  Allows : Failure → Prop
  allows_of_isTimeout : ∀ {failure : Failure}, failure.isTimeout = true → Allows failure

theorem not_overflows_programCommand {config : ControllerConfig} {part : Part} (addr len : Nat) :
    ¬Part.Overflows (programCommand config addr len) part := by
  rintro ⟨hread, -⟩
  rw [programCommand, Part.instruction_program] at hread
  cases hread

namespace Terms

variable (terms : Terms) {config : ControllerConfig}

/-- The command fails in no other way than the terms allow. -/
def Sends (command : Command) : Prop :=
  (terms.Allows .busModeNotSupported ∨ command.mode.check terms.before.features = .ok ()) ∧
    (terms.Allows .fifoOverflow ∨ ¬Part.Overflows command terms.before)

theorem config_of_shape {part : Part} (h : part.shape = terms.before.shape) :
    part.config = terms.before.config := congrArg Part.Shape.config h

/-- A call that keeps the shape of a part and fails on the terms. -/
theorem respects_call {α : Type} {method : Clock → Part → Except Failure α × Part}
    (hshape : ∀ clock part, (method clock part).2.shape = part.shape)
    (hfails : ∀ clock part failure, part.shape = terms.before.shape →
      (method clock part).1 = .error failure → terms.Allows failure) :
    Respects (fun rig => rig.bus.shape = terms.before.shape) (fun _ _ _ => True) terms.Allows 0
      (call method) := by
  intro rig hrig
  have hkept := (hshape rig.clock rig.bus).trans hrig
  exact (ends_call method).2
    ⟨fun _ _ => ⟨hkept, trivial⟩, fun failure h => ⟨hkept, hfails _ _ failure hrig h⟩⟩

/-- What the calls of a part respect on the terms. -/
def law : Law Part where
  Inv rig := rig.bus.shape = terms.before.shape
  Step _ _ _ := True
  Allows := terms.Allows
  Sends command _ := terms.Sends command
  allows_of_isTimeout := terms.allows_of_isTimeout
  step_refl _ := trivial
  step_add _ _ := trivial
  respects_delay _ _ h := ⟨h, trivial⟩
  respects_report _ _ h := ⟨h, trivial⟩
  respects_params _ _ h := ⟨h, trivial⟩
  respects_flush _ h := ⟨h, trivial⟩
  respects_issue {command _} hsends := by
    refine terms.respects_call (fun clock => Part.shape_issue clock command) ?_
    intro clock part failure h herror
    have hconfig := terms.config_of_shape h
    rcases Part.issue_error herror with ⟨rfl, hmode⟩ | ⟨rfl, hover⟩
    · refine hsends.1.resolve_right fun hdriven => ?_
      rw [Part.features_congr hconfig, hdriven] at hmode
      cases hmode
    · refine hsends.2.resolve_right fun hfits => hfits ?_
      rwa [Part.Overflows, hconfig] at hover
  respects_pollDone := terms.respects_call Part.shape_pollDone fun clock part failure _ h =>
    absurd h (Part.pollDone_ne_error clock part failure)

variable {terms}

section Holds

variable {bus : Part} (h : terms.law.rules.Holds bus)

include h

theorem config_of_holds : bus.config = terms.before.config := by
  obtain ⟨rig, hrig, rfl⟩ := h
  exact terms.config_of_shape hrig

theorem features_of_holds : Bus.features bus = terms.before.features :=
  Part.features_congr (config_of_holds h)

theorem writeDepth_of_holds : Bus.writeDepth bus = terms.before.config.writeDepth :=
  congrArg Part.Config.writeDepth (config_of_holds h)

theorem readDepth_of_holds : Bus.readDepth bus = terms.before.config.readDepth :=
  congrArg Part.Config.readDepth (config_of_holds h)

end Holds

theorem mode_of_checked {mode : BusMode} (h : terms.law.rules.Checked mode) :
    mode.check terms.before.features = .ok () := by
  obtain ⟨bus, hbus, hmode⟩ := h
  rwa [features_of_holds hbus] at hmode

theorem acceptsMode_of_ok {mode : BusMode} (h : mode.check terms.before.features = .ok ()) :
    terms.law.rules.AcceptsMode mode := by
  intro bus hbus
  rw [features_of_holds hbus]
  exact terms.law.rules.accepts_of_ok h

/-- The same terms for a part with a channel claimed. -/
def claimed (terms : Terms) (channel : Nat) : Terms :=
  { terms with before := { terms.before with dma := some { channel } } }

/-- A channel is claimed for as long as the body lasts, unless the part does not have it or another
one is claimed already. -/
theorem rel_withChannel {α : Type} {channel : Nat} {body : Op Part α}
    (hmissing : terms.before.config.dmaChannels ≤ channel → terms.Allows .dmaNotSupported)
    (hbusy : terms.before.dma ≠ none → terms.Allows .dmaChannelBusy)
    (hbody : (terms.claimed channel).law.Rel 0 body) :
    terms.law.Rel 0 (withChannel channel body) := by
  intro rig hrig
  have hconfig := terms.config_of_shape hrig
  have hsize : rig.bus.cells.size = terms.before.cells.size := congrArg Part.Shape.size hrig
  have hdma : rig.bus.dma = none ↔ terms.before.dma = none := by
    have hclaim : rig.bus.dma.map Part.DmaClaim.channel =
        terms.before.dma.map Part.DmaClaim.channel := congrArg Part.Shape.claim hrig
    rw [← Option.map_eq_none_iff, hclaim, Option.map_eq_none_iff]
  refine ends_withChannel ?_ ?_
  · intro r _ hfree hpart _
    have hclaimed : r.bus.shape = (terms.claimed channel).before.shape := by
      rw [show r.bus = { rig.bus with dma := some { channel } } from hpart]
      simp only [claimed, Part.shape, hconfig, hsize]
    have hreleased {r' last : Rig Part}
        (hr' : r'.bus.shape = (terms.claimed channel).before.shape)
        (hlast : last.part = r'.part.dmaRelease channel) : last.bus.shape = terms.before.shape := by
      rw [show last.bus = r'.bus.dmaRelease channel from hlast]
      exact Part.shape_release (hdma.1 hfree) hr'
    refine (hbody r hclaimed).mono ?_ ?_
    · exact fun _ r' hr' last hlast _ => ⟨hreleased hr'.1 hlast, trivial⟩
    · exact fun failure r' hr' last hlast _ => ⟨hreleased hr'.1 hlast, hr'.2⟩
  · rintro failure r hpart - hreason
    refine ⟨(congrArg Part.shape hpart).trans hrig, ?_⟩
    rcases hreason with hstray | ⟨rfl, hchannel⟩ | ⟨rfl, hclaimed⟩
    · exact hstray.elim
    · exact hmissing (hconfig ▸ hchannel)
    · refine hbusy fun hfree => ?_
      rw [show rig.part.dma = none from hdma.2 hfree] at hclaimed
      cases hclaimed

/-- The channel that is claimed takes its block. -/
theorem rel_load {config : ControllerConfig}
    (hmissing : terms.before.config.dmaChannels ≤ config.dmaChannel →
      terms.Allows .dmaNotSupported)
    (hbusy : terms.before.dma ≠ none → terms.Allows .dmaChannelBusy)
    (hmode : config.programMode.check terms.before.features = .ok ()) (addr : Nat)
    (data : List UInt8) :
    terms.law.Rel 0 (withChannel config.dmaChannel (feedChannel config addr data)) := by
  let claimed := terms.claimed config.dmaChannel
  have hstart : claimed.law.Rel 0 (call (Bus.dmaStart · config.dmaChannel data)) := by
    refine claimed.respects_call (fun clock => Part.shape_dmaStart clock _ data) ?_
    intro clock part failure hshape herror
    exact absurd herror (Part.dmaStart_ne_error (congrArg Part.Shape.claim hshape) failure)
  have hsends : claimed.Sends (programCommand config addr data.length) :=
    ⟨.inr hmode, .inr (not_overflows_programCommand addr data.length)⟩
  exact rel_withChannel hmissing hbusy (claimed.law.rules.rel_feedChannel hstart
    (claimed.law.rel_idleProbe config.dmaChannel) hsends)

/-- Bytes are staged in an empty FIFO. -/
theorem rel_stage {α : Type} {data : List UInt8} {next : Unit → Op Part α}
    (hroom : terms.Allows .fifoOverflow ∨ data.length ≤ terms.before.config.writeDepth)
    (hnext : terms.law.Rel 0 (next ())) :
    terms.law.Rel 0 (update Bus.flushFifos >>= fun _ => call (Bus.writeFifo · data) >>= next) := by
  intro rig hrig
  have hkept := (Part.shape_queue rig.clock data (Bus.flushFifos rig.bus)).trans hrig
  rw [ends_bind, ends_update, ends_bind, ends_call]
  refine ⟨fun _ _ => hnext _ hkept, fun failure herror => ⟨hkept, ?_⟩⟩
  have hqueue : (Part.queue rig.clock data (Bus.flushFifos rig.bus)).1 = .error failure := herror
  obtain rfl := Part.queue_error hqueue
  refine hroom.resolve_right fun hfits => Part.queue_ne_error ?_ _ hqueue
  show data.length ≤ rig.bus.config.writeDepth - 0
  rwa [terms.config_of_shape hrig]

/-- A refill fits into what has drained. -/
theorem rel_refill (opcode : UInt8) (interval : Nat) (deadline : Deadline) (data : List UInt8) :
    terms.law.Rel 0 (refill opcode terms.before.config.writeDepth interval deadline data) := by
  have hlate : terms.Allows (.commandTimeout opcode) := terms.allows_of_isTimeout rfl
  intro rig hrig
  unfold refill
  simp only [ends_bind, ends_clock, ends_inspect]
  split
  · split
    · exact ⟨hrig, hlate⟩
    rw [ends_bind, ends_call]
    have hkept := (Part.shape_queue rig.clock (data.take (min (terms.before.config.writeDepth -
      Bus.writeLevel rig.clock rig.bus) data.length)) rig.bus).trans hrig
    refine ⟨fun _ _ => ⟨hkept, trivial⟩, fun failure herror => ?_⟩
    refine absurd herror (Part.queue_ne_error ?_ failure)
    rw [terms.config_of_shape hrig, List.length_take]
    exact Nat.le_trans (Nat.min_le_left _ _) (Nat.min_le_left _ _)
  split
  · exact ⟨hrig, hlate⟩
  · exact ⟨hrig, trivial⟩

variable (terms) in
/-- Whatever the read FIFO says, the read has failed. -/
theorem rel_take (hread : terms.Allows .readFailed) (len : Nat) :
    terms.law.Rel 0 (mapFailure (fun _ => .readFailed) (call (Bus.readFifo · len))) := by
  intro rig hrig
  have hkept := (Part.shape_take len rig.bus).trans hrig
  rw [ends_mapFailure, ends_call]
  exact ⟨fun _ _ => ⟨hkept, trivial⟩, fun _ _ => ⟨hkept, hread⟩⟩

/-- Every byte of a piece that fits into the read FIFO comes out of it. -/
theorem rel_readPiece_of_le {config : ControllerConfig}
    (hmode : config.readMode.check terms.before.features = .ok ()) (addr : Nat) {len : Nat}
    (hroom : len ≤ terms.before.config.readDepth) :
    terms.law.Rel 0 (readPiece config addr len) := by
  intro rig hrig
  let flushed : Part := Bus.flushFifos rig.bus
  have hconfig : flushed.config = terms.before.config := terms.config_of_shape hrig
  obtain ⟨value, issued, hissue, hdone, hlength⟩ := Part.issue_read_fills rig.clock addr
    (Part.features_congr hconfig ▸ hmode) (hconfig ▸ hroom)
  have hissued : issued.shape = terms.before.shape := by
    have hkept := Part.shape_issue rig.clock (readCommand config addr len) flushed
    rw [hissue] at hkept
    exact hkept.trans hrig
  rw [readPiece, ends_bind, ends_update, ends_bind]
  refine (ends_transact config.poll hissue hdone).mono ?_ ?_
  · rintro _ r ⟨-, hpart, -, -⟩
    obtain ⟨taken, -, htake⟩ := Part.take_of_length hlength (congrArg Part.readFifo hpart)
    have hkept := (Part.shape_take len r.bus).trans ((congrArg Part.shape hpart).trans hissued)
    rw [ends_mapFailure, ends_call]
    refine ⟨fun _ _ => ⟨hkept, trivial⟩, fun failure herror => ?_⟩
    rw [show Bus.readFifo r.clock len r.bus = _ from htake] at herror
    cases herror
  · rintro failure r ⟨hpart, -, hreason⟩
    refine ⟨?_, ?_⟩
    · rcases hpart with hpart | hpart
      · exact (congrArg Part.shape hpart).trans hrig
      · exact (congrArg Part.shape hpart).trans hissued
    · rcases hreason with hstray | ⟨rfl, -⟩
      · exact hstray.elim
      · exact terms.allows_of_isTimeout rfl

/-! ## Walks on terms -/

theorem sends_of_single {command : Command} (hmode : command.mode = .single)
    (hdata : command.dataLength = 0) : terms.Sends command :=
  ⟨.inr (hmode ▸ Part.check_single _), .inr (Part.not_overflows_of_dataLength hdata)⟩

/-- Of the commands that calls send besides those for data only the reset can be refused, for its
mode. -/
theorem sends_of_mem_commands {call : Call} {command : Command} (h : command ∈ call.commands)
    (hmode : ∀ mode, call = .softReset mode →
      terms.Allows .busModeNotSupported ∨ mode.check terms.before.features = .ok ()) :
    terms.Sends command := by
  refine ⟨?_, .inr (Part.not_overflows_of_dataLength (Call.dataLength_of_mem_commands h))⟩
  rcases Call.mode_of_mem_commands h with hsingle | hreset
  · exact .inr (hsingle ▸ Part.check_single _)
  · exact hmode _ hreset

/-- What the operations of a controller respect on terms that include its reports of a program, and
the refusal of its channel if the part cannot give it. -/
def walk (terms : Terms) (config : ControllerConfig)
    (hprogram : ∀ failure window, terms.Allows failure →
      terms.Allows (programFailure window failure))
    (hmissing : terms.before.config.dmaChannels ≤ config.dmaChannel →
      terms.Allows .dmaNotSupported)
    (hbusy : terms.before.dma ≠ none → terms.Allows .dmaChannelBusy) : Walk Part Part config where
  toRules := terms.law.rules
  Stages len := terms.Allows .fifoOverflow ∨ len ≤ terms.before.config.writeDepth
  Fetches len := terms.Allows .fifoOverflow ∧ terms.Allows .readFailed ∨
    len ≤ terms.before.config.readDepth
  cost := 0
  wait := 0
  allows_programFailure window h := hprogram _ window h
  allows_dmaNotSupported hbus hnone := by
    rw [features_of_holds hbus] at hnone
    have hzero : ¬0 < terms.before.config.dmaChannels := of_decide_eq_false hnone
    exact hmissing (by omega)
  sends_writeEnable := sends_of_single rfl rfl
  sends_programCommand hmode addr len :=
    ⟨.inr (mode_of_checked hmode), .inr (not_overflows_programCommand addr len)⟩
  rel_waitReady := terms.law.rules.rel_waitReady (sends_of_single rfl rfl) _
  rel_stage hroom hnext := rel_stage hroom hnext
  rel_load hmode addr data := rel_load hmissing hbusy (mode_of_checked hmode) addr data
  rel_refill hbus opcode interval deadline data := by
    rw [writeDepth_of_holds hbus]
    exact rel_refill opcode interval deadline data
  rel_readPiece hmode _ hroom addr := by
    rcases hroom with ⟨hover, hread⟩ | hfits
    · exact terms.law.rules.rel_readPiece (terms.rel_take hread)
        ⟨.inr (mode_of_checked hmode), .inl hover⟩
    · exact rel_readPiece_of_le (mode_of_checked hmode) addr hfits

end Terms

end Flash

end CardReader
