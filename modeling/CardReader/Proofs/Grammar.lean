import CardReader.Proofs.Program.Completion
import CardReader.Proofs.Recorded

/-!
# The grammar of transactions

Whatever a bus answers, the calls that change a part send their commands in one order: a write
enable, the command itself, and then reads of the status until one of them shows that no write is
in progress.  No command is sent before the one before it has been reported as over.

What is proved here:

* `records_transact`, `records_writeEnable` and `records_waitReady` — what one transaction and one
  wait add to a record;
* `records_programChunk`, `records_programChunkDma` and `records_streamPage` — what a piece and a
  page add;
* `recorded_writing` — every call that writes keeps to the grammar, programs inside pages, and, if
  it programs a payload, sends its image from the first byte on.
-/

namespace CardReader.Flash

/-! ## Commands -/

namespace Command

/-- Sets the write enable latch. -/
def writeEnable : Command := .simple Opcode.writeEnable

/-- Reads status register 1. -/
def statusRead : Command := .readRegister Opcode.readStatus1 1

/-- The command changes the part: it neither sets the latch nor reads the status. -/
def acts (command : Command) : Bool := command != .writeEnable && command != .statusRead

theorem format_writeRegister (opcode : UInt8) (value : UInt16) (len : Nat) :
    (writeRegister opcode value len).format = .writeRegister16 ∨
      (writeRegister opcode value len).format = .writeRegister8 := by
  by_cases hlen : 2 ≤ len
  · exact .inl (if_pos hlen)
  · exact .inr (if_neg hlen)

/-- The command programs bytes, all of them inside one page of the address space. -/
structure InPage (command : Command) : Prop where
  pos : 1 ≤ command.dataLength
  le_page : command.dataLength ≤ pageSize
  address_lt : command.address < addressSpace
  page : command.address % pageSize + command.dataLength ≤ pageSize

end Command

/-- A status register value that shows no write in progress. -/
def showsReady (value : UInt32) : Bool := value.toUInt8 &&& StatusBit.writeInProgress == 0

/-! ## What a record says -/

/-- A program command, and the bytes staged for it. -/
structure Load where
  /-- The command. -/
  command : Command
  /-- The bytes staged since the FIFOs were last emptied, if they were emptied. -/
  staged : Option (List UInt8)
  deriving DecidableEq

namespace Record

/-- The last command that was issued. -/
def lastCommand : Record → Option Command
  | [] => none
  | .issue command _ :: _ => some command
  | _ :: earlier => lastCommand earlier

/-- The last command has been reported as over. -/
def finished : Record → Bool
  | [] => true
  | .issue _ _ :: _ => false
  | .poll value :: earlier => value.isSome || finished earlier
  | _ :: earlier => finished earlier

/-- Since the last command that changed the part a read of the status has shown it ready. -/
def settled : Record → Bool
  | [] => true
  | .issue command _ :: earlier => !command.acts && settled earlier
  | .poll (some value) :: earlier =>
    settled earlier || (showsReady value && lastCommand earlier == some .statusRead)
  | _ :: earlier => settled earlier

/-- The bytes staged since the FIFOs were last emptied, if they were emptied. -/
def staged : Record → Option (List UInt8)
  | [] => none
  | .flush :: _ => some []
  | .write data true :: earlier => (staged earlier).map (· ++ data)
  | .start _ block true :: earlier => (staged earlier).map (· ++ block)
  | _ :: earlier => staged earlier

/-- What a command programs. -/
def loadOf (command : Command) (staged : Option (List UInt8)) : List Load :=
  if command.format.drainsWriteFifo then [⟨command, staged⟩] else []

/-- What was programmed, the first command first. -/
def loads : Record → List Load
  | [] => []
  | .issue command _ :: earlier => loads earlier ++ loadOf command (staged earlier)
  | _ :: earlier => loads earlier

/-- The command may be issued after these calls. -/
structure Allows (earlier : Record) (command : Command) : Prop where
  /-- The command before has been reported as over. -/
  finished : earlier.finished = true
  /-- A command that changes the part comes right after a write enable. -/
  armed : command.acts = true → earlier.lastCommand = some .writeEnable
  /-- Right after a command that changes the part the status is read. -/
  next : ∀ last, earlier.lastCommand = some last → last.acts = true → command = .statusRead
  /-- Nothing else is sent until the part has been shown ready. -/
  settled : command ≠ .statusRead → earlier.settled = true

/-- Every command was issued when it might be. -/
def Lawful : Record → Prop
  | [] => True
  | .issue command _ :: earlier => Lawful earlier ∧ Allows earlier command
  | _ :: earlier => Lawful earlier

/-- The call neither issues a command nor brings its answer. -/
def silent : Event → Bool
  | .issue _ _ => false
  | .poll value => value.isNone
  | .setParams _ | .flush | .write _ _ | .take _ _ => true
  | .acquire _ _ | .start _ _ _ | .release _ => true

section Silent

variable {event : Event} (h : silent event = true) (record : Record)

include h

theorem lastCommand_silent : lastCommand (event :: record) = lastCommand record := by
  cases event <;> first | rfl | cases h

theorem finished_silent : finished (event :: record) = finished record := by
  cases event with
  | poll value => cases value <;> first | rfl | cases h
  | _ => first | rfl | cases h

theorem settled_silent : settled (event :: record) = settled record := by
  cases event with
  | poll value => cases value <;> first | rfl | cases h
  | _ => first | rfl | cases h

theorem loads_silent : loads (event :: record) = loads record := by
  cases event <;> first | rfl | cases h

theorem lawful_silent : Lawful (event :: record) ↔ Lawful record := by
  cases event <;> first | exact Iff.rfl | cases h

end Silent

/-- A part that has been shown ready was asked for its status after the last change. -/
theorem not_acts_of_settled {record : Record} (h : record.settled = true) {last : Command}
    (hlast : record.lastCommand = some last) : last.acts = false := by
  induction record with
  | nil => cases hlast
  | cons event earlier ih =>
    cases event with
    | issue command accepted =>
      cases hlast
      have hquiet : (!last.acts && settled earlier) = true := h
      rw [Bool.and_eq_true, Bool.not_eq_true'] at hquiet
      exact hquiet.1
    | poll value =>
      cases value with
      | none => exact ih h hlast
      | some value =>
        have hcases : (settled earlier ||
            (showsReady value && lastCommand earlier == some .statusRead)) = true := h
        have hlast : lastCommand earlier = some last := hlast
        rw [Bool.or_eq_true, Bool.and_eq_true, beq_iff_eq] at hcases
        obtain hbefore | ⟨-, hstatus⟩ := hcases
        · exact ih hbefore hlast
        · rw [hstatus] at hlast
          cases hlast
          decide
    | setParams | flush | write | take | acquire | start | release => exact ih h hlast

theorem allows_statusRead {record : Record} (h : record.finished = true) :
    record.Allows .statusRead :=
  ⟨h, fun hacts => absurd hacts (by decide), fun _ _ _ => rfl, fun hne => absurd rfl hne⟩

theorem allows_of_settled {record : Record} {command : Command} (hfinished : record.finished = true)
    (hsettled : record.settled = true)
    (harmed : command.acts = true → record.lastCommand = some .writeEnable) :
    record.Allows command := by
  refine ⟨hfinished, harmed, ?_, fun _ => hsettled⟩
  intro last hlast hacts
  rw [not_acts_of_settled hsettled hlast] at hacts
  cases hacts

end Record

/-! ## Situations -/

/-- An operation has come to an end somewhere, having programmed `done`. -/
structure Halted (done : List Load) (record : Record) : Prop where
  lawful : record.Lawful
  loads_eq : record.loads = done

/-- No command is on its way. -/
structure Paused (done : List Load) (record : Record) : Prop extends Halted done record where
  finished : record.finished = true

/-- The part has been shown ready. -/
structure Resting (done : List Load) (record : Record) : Prop extends Paused done record where
  settled : record.settled = true

/-- The last command has set the write enable latch. -/
structure Armed (done : List Load) (record : Record) : Prop extends Resting done record where
  armed : record.lastCommand = some .writeEnable

/-- A command has been issued, and may not be over. -/
structure Issued (command : Command) (before after : Record) : Prop where
  lawful : after.Lawful
  last : after.lastCommand = some command
  settled : command.acts = false → before.settled = true → after.settled = true
  loads_eq : after.loads = before.loads ++ Record.loadOf command before.staged

/-- A command is over and has answered with a register value. -/
structure Answered (command : Command) (value : UInt32) (before after : Record) : Prop
    extends Issued command before after where
  finished : after.finished = true
  ready : command = .statusRead → showsReady value = true → after.settled = true

theorem resting_nil : Resting [] [] := ⟨⟨⟨trivial, rfl⟩, rfl⟩, rfl⟩

theorem Issued.halted {command : Command} {before after : Record} {done : List Load}
    (h : Issued command before after) (hdone : before.loads = done) :
    Halted (done ++ Record.loadOf command before.staged) after :=
  ⟨h.lawful, hdone ▸ h.loads_eq⟩

/-- A command that programs nothing leaves what was programmed. -/
theorem Issued.halted_of_plain {command : Command} {before after : Record} {done : List Load}
    (h : Issued command before after) (hplain : command.format.drainsWriteFifo = false)
    (hdone : before.loads = done) : Halted done after := by
  refine ⟨h.lawful, ?_⟩
  rw [h.loads_eq, hdone, Record.loadOf, hplain]
  exact List.append_nil done

theorem issued_issue {command : Command} {before : Record} (hlawful : before.Lawful)
    (hallows : before.Allows command) (accepted : Bool) :
    Issued command before (.issue command accepted :: before) := by
  refine ⟨⟨hlawful, hallows⟩, rfl, ?_, rfl⟩
  intro hacts hsettled
  show (!command.acts && before.settled) = true
  rw [hacts, hsettled]
  rfl

section Silent

variable {command : Command} {before record : Record} {done : List Load} {event : Event}

theorem Halted.silent (h : Halted done record) (hsilent : Record.silent event = true) :
    Halted done (event :: record) :=
  ⟨(Record.lawful_silent hsilent record).2 h.lawful,
    (Record.loads_silent hsilent record).trans h.loads_eq⟩

theorem Paused.silent (h : Paused done record) (hsilent : Record.silent event = true) :
    Paused done (event :: record) :=
  ⟨h.toHalted.silent hsilent, (Record.finished_silent hsilent record).trans h.finished⟩

theorem Armed.silent (h : Armed done record) (hsilent : Record.silent event = true) :
    Armed done (event :: record) :=
  ⟨⟨h.toPaused.silent hsilent, (Record.settled_silent hsilent record).trans h.settled⟩,
    (Record.lastCommand_silent hsilent record).trans h.armed⟩

theorem Issued.silent (h : Issued command before record) (hsilent : Record.silent event = true) :
    Issued command before (event :: record) :=
  ⟨(Record.lawful_silent hsilent record).2 h.lawful,
    (Record.lastCommand_silent hsilent record).trans h.last,
    fun hacts hbefore => (Record.settled_silent hsilent record).trans (h.settled hacts hbefore),
    (Record.loads_silent hsilent record).trans h.loads_eq⟩

end Silent

theorem Issued.poll_some {command : Command} {before after : Record}
    (h : Issued command before after) (value : UInt32) :
    Answered command value before (.poll (some value) :: after) := by
  have hsettled : (Record.settled (.poll (some value) :: after)) =
      (after.settled || (showsReady value && after.lastCommand == some .statusRead)) := rfl
  refine ⟨⟨h.lawful, h.last, ?_, h.loads_eq⟩, rfl, ?_⟩
  · intro hacts hbefore
    rw [hsettled, h.settled hacts hbefore, Bool.true_or]
  · intro hstatus hready
    simp [hsettled, hready, h.last, hstatus]

namespace Sequence

variable {σ : Type} [Bus σ] {policy : PollPolicy} {before : Record} {done : List Load}

open Op

/-! ## Transactions -/

theorem records_waitDone {command : Command} {between : Record} {opcode : UInt8}
    (h : Issued command before between) :
    Records (waitDone opcode policy : Op (Recorded σ) UInt32) between
      (fun value => Answered command value before) (Issued command before) := by
  refine records_wait (Issued command before) ?_ (fun _ hafter => hafter) h
  intro now hnow
  refine records_note ?_ fun _ => hnow.silent rfl
  intro value
  cases value with
  | none => exact hnow.silent rfl
  | some value => exact hnow.poll_some value

/-- A transaction is issued and polled. -/
theorem records_transact {command : Command} (hlawful : before.Lawful)
    (hallows : before.Allows command) :
    Records (transact command policy : Op (Recorded σ) Command) before
      (fun completed after => ∃ value, completed = command.withReadData value ∧
        Answered command value before after) (Issued command before) := by
  refine records_note_bind (fun _ => ?_) fun _ => issued_issue hlawful hallows false
  refine records_bind (records_waitDone (issued_issue hlawful hallows true)) ?_
  intro value after hanswered
  exact records_pure ⟨value, rfl, hanswered⟩

/-- A write enable arms a part that has been shown ready. -/
theorem records_writeEnable (h : Resting done before) :
    Records (writeEnable .single policy : Op (Recorded σ) Unit) before
      (fun _ => Armed done) (Halted done) := by
  have hallows : before.Allows .writeEnable :=
    Record.allows_of_settled h.finished h.settled nofun
  have henabled : Records (transact .writeEnable policy : Op (Recorded σ) Command) before
      (fun _ => Armed done) (Halted done) := by
    refine (records_transact h.lawful hallows).mono ?_ ?_
    · rintro completed after ⟨value, -, hanswered⟩
      have hhalted : Halted done after := hanswered.halted_of_plain rfl h.loads_eq
      have hsettled : after.settled = true := hanswered.settled (by decide) h.settled
      exact ⟨⟨⟨hhalted, hanswered.finished⟩, hsettled⟩, hanswered.last⟩
    · intro after hissued
      exact hissued.halted_of_plain rfl h.loads_eq
  exact records_bind henabled fun _ _ harmed => records_pure harmed

/-- The command that comes after a write enable is issued once. -/
theorem records_transact_armed (command : Command) (h : Armed done before) :
    Records (transact command policy : Op (Recorded σ) Command) before
      (fun _ => Paused (done ++ Record.loadOf command before.staged))
      (Halted (done ++ Record.loadOf command before.staged)) := by
  have hallows : before.Allows command :=
    Record.allows_of_settled h.finished h.settled fun _ => h.armed
  refine (records_transact h.lawful hallows).mono ?_ ?_
  · rintro completed after ⟨value, -, hanswered⟩
    exact ⟨hanswered.halted h.loads_eq, hanswered.finished⟩
  · intro after hissued
    exact hissued.halted h.loads_eq

/-- A read of the status settles the record if it shows the part ready. -/
theorem records_readStatus (h : Paused done before) :
    Records (readStatus Opcode.readStatus1 policy : Op (Recorded σ) UInt8) before
      (fun status after => Paused done after ∧
        (status &&& StatusBit.writeInProgress = 0 → after.settled = true)) (Halted done) := by
  have hallows : before.Allows .statusRead := Record.allows_statusRead h.finished
  have hasked : Records (transact .statusRead policy : Op (Recorded σ) Command) before
      (fun completed after => ∃ value, completed = Command.statusRead.withReadData value ∧
        Answered .statusRead value before after) (Halted done) := by
    refine (records_transact h.lawful hallows).mono_err ?_
    intro after hissued
    exact hissued.halted_of_plain rfl h.loads_eq
  refine records_bind hasked ?_
  rintro completed after ⟨value, rfl, hanswered⟩
  have hhalted : Halted done after := hanswered.halted_of_plain rfl h.loads_eq
  refine records_pure ⟨⟨hhalted, hanswered.finished⟩, fun hready => hanswered.ready rfl ?_⟩
  exact beq_iff_eq.2 hready

/-- The part is asked for its status until it is shown ready. -/
theorem records_waitReady (h : Paused done before) :
    Records (waitReady policy : Op (Recorded σ) Unit) before
      (fun _ => Resting done) (Halted done) := by
  refine records_wait (Paused done) ?_ (fun _ hafter => hafter.toHalted) h
  intro now hnow
  refine records_bind (records_readStatus hnow) ?_
  rintro status after ⟨hpaused, hready⟩
  refine records_pure ?_
  by_cases hstatus : status &&& StatusBit.writeInProgress = 0
  · rw [if_pos hstatus]
    exact ⟨hpaused, hready hstatus⟩
  · rw [if_neg hstatus]
    exact hpaused

/-! ## Acts -/

/-- A write enable, a command that programs nothing, and a wait for the part. -/
theorem records_act (command : Command) (hplain : command.format.drainsWriteFifo = false)
    (h : Resting done before) :
    Records (act command policy : Op (Recorded σ) Unit) before
      (fun _ => Resting done) (Halted done) := by
  refine records_bind (records_writeEnable h) ?_
  intro _ armed harmed
  have hsent : Records (transact command policy : Op (Recorded σ) Command) armed
      (fun _ => Paused done) (Halted done) := by
    have hnone : done ++ Record.loadOf command armed.staged = done := by
      rw [Record.loadOf, hplain]
      exact List.append_nil done
    have htransact : Records (transact command policy : Op (Recorded σ) Command) armed _ _ :=
      records_transact_armed command harmed
    rw [hnone] at htransact
    exact htransact
  exact records_bind hsent fun _ paused hpaused => records_waitReady hpaused

end Sequence

namespace Controller

open Op Sequence

variable {σ : Type} [Bus σ] {config : ControllerConfig} {before : Record} {done : List Load}

theorem records_erase (unit : EraseUnit) (addr : Nat) (h : Resting done before) :
    Records (erase config unit addr : Op (Recorded σ) Unit) before
      (fun _ => Resting done) (Halted done) := by
  by_cases hunit : unit = .chip
  · subst hunit
    refine records_bind (records_mapFailure (records_waitReady h.toPaused)) ?_
    intro _ between hbetween
    exact records_mapFailure (records_act (.simple Opcode.chipErase) rfl hbetween)
  · rw [erase_eq_act hunit]
    refine records_check_bind (fun _ _ => records_mapFailure ?_) h.toHalted
    refine records_act _ ?_ h
    cases unit <;> rfl

theorem records_writeParam (opcode : UInt8) (value : UInt16) (h : Resting done before) :
    Records (writeParam config opcode value : Op (Recorded σ) Unit) before
      (fun _ => Resting done) (Halted done) := by
  let len := if value.toNat > 0xFF then 2 else 1
  have hplain : (Command.writeRegister opcode value len).format.drainsWriteFifo = false := by
    rcases Command.format_writeRegister opcode value len with hformat | hformat
    · rw [hformat]
      rfl
    · rw [hformat]
      rfl
  exact records_act (.writeRegister opcode value len) hplain h

/-! ## Pieces -/

/-- The program command of a piece, and its bytes. -/
def loadOf (config : ControllerConfig) (addr : Nat) (data : List UInt8) : Load :=
  ⟨programCommand config addr data.length, some data⟩

/-- An operation has come to an end before or after it has issued a program command. -/
def Broken (done : List Load) (load : Load) (record : Record) : Prop :=
  Halted done record ∨ Halted (done ++ [load]) record

/-- What is staged for the program command of a piece is what it programs. -/
theorem records_transact_staged {addr : Nat} {data : List UInt8} (h : Armed done before)
    (hdata : before.staged = some data) :
    Records (transact (programCommand config addr data.length) config.poll :
        Op (Recorded σ) Command) before
      (fun _ => Paused (done ++ [loadOf config addr data]))
      (Halted (done ++ [loadOf config addr data])) := by
  have hsent : Records (transact (programCommand config addr data.length) config.poll :
      Op (Recorded σ) Command) before _ _ := records_transact_armed _ h
  rw [hdata] at hsent
  exact hsent

theorem records_waitReady_sent {load : Load} (h : Paused (done ++ [load]) before) :
    Records (waitReady config.poll : Op (Recorded σ) Unit) before
      (fun _ => Resting (done ++ [load])) (Broken done load) :=
  (records_waitReady h).mono_err fun _ h => .inr h

/-- A piece staged through the FIFO register is programmed once. -/
theorem records_programChunk (addr : Nat) (data : List UInt8) (h : Resting done before) :
    Records (programChunk config addr data : Op (Recorded σ) Unit) before
      (fun _ => Resting (done ++ [loadOf config addr data]))
      (Broken done (loadOf config addr data)) := by
  refine records_bind ((records_writeEnable h).mono_err fun _ h => .inl h) ?_
  intro _ armed harmed
  have hflushed : Armed done (.flush :: armed) := harmed.silent rfl
  refine records_flush_bind ?_
  refine records_note_bind (fun _ => ?_) fun _ => .inl (hflushed.silent rfl).toHalted
  have hstaged : Armed done (.write data true :: .flush :: armed) := hflushed.silent rfl
  refine records_bind ((records_transact_staged hstaged rfl).mono_err fun _ h => .inr h) ?_
  exact fun _ paused hpaused => records_waitReady_sent hpaused

/-- A piece fed by DMA is programmed once, and its channel is given back in any case. -/
theorem records_programChunkDma (addr : Nat) (data : List UInt8) (h : Resting done before) :
    Records (programChunkDma config addr data : Op (Recorded σ) Unit) before
      (fun _ => Resting (done ++ [loadOf config addr data]))
      (Broken done (loadOf config addr data)) := by
  let channel := config.dmaChannel
  refine records_bind ((records_writeEnable h).mono_err fun _ h => .inl h) ?_
  intro _ armed harmed
  have hacquired : Armed done (.acquire channel true :: armed) := harmed.silent rfl
  have hflushed : Armed done (.flush :: .acquire channel true :: armed) := hacquired.silent rfl
  have hstaged : Armed done
      (.start channel data true :: .flush :: .acquire channel true :: armed) := hflushed.silent rfl
  refine records_bind ?_ fun _ paused hpaused => records_waitReady_sent hpaused
  refine records_withChannel (.inl harmed.toHalted) (.inl (harmed.silent rfl).toHalted) ?_
  refine records_flush_bind ?_
  refine records_note_bind (fun _ => ?_) fun _ =>
    .inl ((hflushed.silent rfl).silent rfl).toHalted
  refine records_bind ((records_transact_staged hstaged rfl).mono_err
    fun _ h => .inr (h.silent rfl)) ?_
  intro _ paused hpaused
  refine (records_waitIdle channel config.poll).mono ?_ ?_
  · rintro _ _ rfl
    exact hpaused.silent rfl
  · rintro _ rfl
    exact .inr (hpaused.silent rfl).toHalted

theorem records_sendPiece (useDma : Bool) (piece : Piece) (h : Resting done before) :
    Records (sendPiece config useDma piece : Op (Recorded σ) Unit) before
      (fun _ => Resting (done ++ [loadOf config piece.addr piece.data]))
      (Broken done (loadOf config piece.addr piece.data)) := by
  cases useDma with
  | true => exact records_programChunkDma piece.addr piece.data h
  | false => exact records_programChunk piece.addr piece.data h

/-! ## A page that is streamed -/

/-- Topping up the FIFO keeps whatever a write to it keeps. -/
theorem records_topUp {opcode : UInt8} {depth interval : Nat} {deadline : Deadline}
    (inv : Record → Prop)
    (hwrite : ∀ now data accepted, inv now → inv (.write data accepted :: now))
    (data : List UInt8) (h : inv before) :
    Records (topUp opcode depth interval deadline data : Op (Recorded σ) Unit) before
      (fun _ => inv) inv := by
  rintro rig rfl
  unfold Ends
  fun_induction topUp opcode depth interval deadline data rig with
  | case1 => exact h
  | case2 => exact h
  | case3 byte more bus clock progress level hlow count hroom failure bus' hcall =>
    have hrecord : _ = bus'.record := congrArg (·.2.record) hcall
    show inv bus'.record
    rw [← hrecord]
    exact hwrite _ _ _ h
  | case4 byte more bus clock progress level hlow count hroom bus' hcall ih =>
    have hrecord : _ = bus'.record := congrArg (·.2.record) hcall
    refine ih ?_
    show inv bus'.record
    rw [← hrecord]
    exact hwrite _ _ _ h
  | case5 => exact h
  | case6 byte more bus clock progress level hhigh hexpired ih => exact ih h

/-- A page is sent by one command; some of its bytes may be staged only after it. -/
theorem records_streamPage (addr : Nat) (payload : List UInt8) (h : Resting done before) :
    Records (streamPage config addr payload : Op (Recorded σ) Unit) before
      (fun _ after => ∃ load, load.command = programCommand config addr payload.length ∧
        Resting (done ++ [load]) after)
      (fun after => ∃ load, load.command = programCommand config addr payload.length ∧
        Broken done load after) := by
  let command := programCommand config addr payload.length
  have hhalted {after : Record} (hafter : Halted done after) :
      ∃ load : Load, load.command = command ∧ Broken done load after :=
    ⟨⟨command, none⟩, rfl, .inl hafter⟩
  refine records_inspect_bind fun features => ?_
  refine records_check_bind (fun _ _ => ?_) (hhalted h.toHalted)
  refine records_bind ((records_writeEnable h).mono_err fun _ h => hhalted h) ?_
  intro _ armed harmed
  have hflushed : Armed done (.flush :: armed) := harmed.silent rfl
  refine records_inspect_bind fun depth => ?_
  refine records_flush_bind ?_
  refine records_note_bind (fun _ => ?_) fun _ => hhalted (hflushed.silent rfl).toHalted
  let filled : Record := .write (payload.take (min payload.length depth)) true :: .flush :: armed
  have hfilled : Armed done filled := hflushed.silent rfl
  let load : Load := ⟨command, filled.staged⟩
  have hallows : filled.Allows command :=
    Record.allows_of_settled hfilled.finished hfilled.settled fun _ => hfilled.armed
  have hload {after : Record} (hafter : Issued command filled after) :
      Halted (done ++ [load]) after := hafter.halted hfilled.loads_eq
  have hbroken {after : Record} (hafter : Issued command filled after) :
      ∃ load : Load, load.command = command ∧ Broken done load after :=
    ⟨load, rfl, .inr (hload hafter)⟩
  refine records_note_bind (fun _ => ?_) fun _ =>
    hbroken (issued_issue hfilled.lawful hallows false)
  have hissued : Issued command filled (.issue command true :: filled) :=
    issued_issue hfilled.lawful hallows true
  refine records_clock_bind fun clock => ?_
  refine records_bind ((records_topUp (Issued command filled) (fun _ _ _ h => h.silent rfl) _
    hissued).mono_err fun _ h => hbroken h) ?_
  intro _ topped htopped
  refine records_bind ((records_waitDone htopped).mono_err fun _ h => hbroken h) ?_
  intro value answered hanswered
  have hpaused : Paused (done ++ [load]) answered :=
    ⟨hload hanswered.toIssued, hanswered.finished⟩
  refine (records_waitReady hpaused).mono ?_ ?_
  · intro _ after hresting
    exact ⟨load, rfl, hresting⟩
  · intro after hafter
    exact ⟨load, rfl, .inr hafter⟩

theorem inPage_programCommand {addr len : Nat} (hpos : 0 < len)
    (hend : addr + len ≤ addressSpace) (hpage : addr % pageSize + len ≤ pageSize) :
    (programCommand config addr len).InPage := by
  have haddr : (programCommand config addr len).address = addr := Nat.mod_eq_of_lt (by omega)
  refine ⟨hpos, Nat.le_trans (Nat.le_add_left _ _) hpage, ?_, ?_⟩
  · rw [haddr]
    omega
  · rw [haddr]
    exact hpage

/-- The calls keep to the grammar, and every command programs inside a page. -/
structure Orderly (record : Record) : Prop where
  lawful : record.Lawful
  inPage : ∀ load ∈ record.loads, load.command.InPage

theorem orderly_of_halted {record : Record} (h : Halted done record)
    (hdone : ∀ load ∈ done, load.command.InPage) : Orderly record :=
  ⟨h.lawful, h.loads_eq ▸ hdone⟩

theorem records_programOnePage (addr : Nat) (payload : List UInt8) :
    Records (programOnePage config addr payload : Op (Recorded σ) Unit) []
      (fun _ => Orderly) Orderly := by
  have horderly : Orderly [] := orderly_of_halted resting_nil.toHalted nofun
  rw [programOnePage_eq]
  refine records_check_bind (fun _ hrange => ?_) horderly
  have hfits := (checkRange_eq_ok_iff.1 hrange).2
  split
  · exact records_fail horderly
  rename_i hpage
  split
  · exact records_pure horderly
  rename_i hnonempty
  have hpos : 0 < payload.length :=
    List.length_pos_iff.2 fun hempty => hnonempty (List.isEmpty_iff.2 hempty)
  have hload {load : Load} (h : load.command = programCommand config addr payload.length) :
      ∀ other ∈ ([] ++ [load] : List Load), other.command.InPage := by
    intro other hother
    rw [List.nil_append, List.mem_singleton] at hother
    rw [hother, h]
    exact inPage_programCommand hpos hfits (Nat.le_of_not_gt hpage)
  refine records_mapFailure ((records_streamPage addr payload resting_nil).mono ?_ ?_)
  · rintro _ after ⟨load, hcommand, hresting⟩
    exact orderly_of_halted hresting.toHalted (hload hcommand)
  · rintro after ⟨load, hcommand, hhalted | hhalted⟩
    · exact orderly_of_halted hhalted nofun
    · exact orderly_of_halted hhalted (hload hcommand)

/-! ## Payloads -/

/-- The commands program the addresses from `start` up to `stop`, one run after another. -/
def Consecutive : List Load → Nat → Nat → Prop
  | [], start, stop => start = stop
  | load :: rest, start, stop =>
    load.command.address = start ∧ Consecutive rest (start + load.command.dataLength) stop

/-- Each command has been staged the bytes that an image placed at `base` has at its address. -/
def Carried (base : Nat) (image : List UInt8) (loads : List Load) : Prop :=
  ∀ load ∈ loads, base ≤ load.command.address ∧
    load.command.address + load.command.dataLength ≤ base + image.length ∧
    load.staged = some ((image.drop (load.command.address - base)).take load.command.dataLength)

section Payloads

variable {base : Nat} {payload : List UInt8} {useDma : Bool} {cipher : CipherMode}

/-- The program commands of pieces. -/
def loadsOf (config : ControllerConfig) (pieces : List Piece) : List Load :=
  pieces.map fun piece => loadOf config piece.addr piece.data

theorem consecutive_loadsOf {pieces : List Piece} (hplaced : Placed base pieces)
    (hend : base + (bytes pieces).length ≤ addressSpace)
    (hnonempty : ∀ piece ∈ pieces, piece.data ≠ []) :
    Consecutive (loadsOf config pieces) base (base + (bytes pieces).length) := by
  induction pieces generalizing base with
  | nil => rfl
  | cons piece rest ih =>
    have hpos := List.length_pos_iff.2 (hnonempty piece List.mem_cons_self)
    rw [bytes_cons, List.length_append] at hend ⊢
    obtain ⟨haddr, hrest⟩ := hplaced
    refine ⟨?_, ?_⟩
    · show maskAddress piece.addr = base
      rw [haddr]
      exact Nat.mod_eq_of_lt (by omega)
    · rw [← Nat.add_assoc]
      show Consecutive (loadsOf config rest) (base + piece.data.length) _
      exact ih hrest (by omega) fun other hother => hnonempty other (List.mem_cons_of_mem _ hother)

section Plan

variable {features : BusFeatures} {sent rest : List Piece}
  (hpasses : Passes config base payload useDma cipher features)
  (hplan : plan base useDma (Cipher.encipher payload cipher) = sent ++ rest)

include hpasses hplan

/-- A piece of the plan holds the bytes that the image has at its address. -/
theorem piece_of_plan {piece : Piece} (hmem : piece ∈ sent) :
    piece.Proper ∧ base ≤ piece.addr ∧
      piece.addr + piece.data.length ≤
        base + (Cipher.encipher payload cipher).image.length ∧
      piece.data = ((Cipher.encipher payload cipher).image.drop (piece.addr - base)).take
        piece.data.length := by
  obtain ⟨first, others, hsent⟩ := List.append_of_mem hmem
  have hsplit : plan base useDma (Cipher.encipher payload cipher) =
      first ++ piece :: (others ++ rest) := by
    rw [hplan, hsent, List.append_assoc]
    rfl
  obtain ⟨haddr, hbytes, hend, -, hproper, -⟩ := split_plan hpasses.tailFits hsplit
  refine ⟨hproper, by omega, hend, ?_⟩
  have hdrop : piece.addr - base = (bytes first).length := by omega
  rw [hbytes, hdrop, List.drop_left, List.take_left]

omit hplan in
theorem image_le_addressSpace :
    base + (Cipher.encipher payload cipher).image.length ≤ addressSpace := by
  rw [Cipher.length_image]
  exact (checkProgram_eq_ok_iff.1 hpasses.check_eq).2.1

theorem inPage_loadsOf : ∀ load ∈ loadsOf config sent, load.command.InPage := by
  intro load hload
  obtain ⟨piece, hmem, rfl⟩ := List.mem_map.1 hload
  obtain ⟨hproper, -, hend, -⟩ := piece_of_plan hpasses hplan hmem
  exact inPage_programCommand (List.length_pos_iff.2 hproper.nonempty)
    (Nat.le_trans hend (image_le_addressSpace hpasses)) hproper.page

theorem carried_loadsOf :
    Carried base (Cipher.encipher payload cipher).image (loadsOf config sent) := by
  intro load hload
  obtain ⟨piece, hmem, rfl⟩ := List.mem_map.1 hload
  obtain ⟨hproper, hbase, hend, hdata⟩ := piece_of_plan hpasses hplan hmem
  have hpos := List.length_pos_iff.2 hproper.nonempty
  have hspace := image_le_addressSpace hpasses
  have haddr : (loadOf config piece.addr piece.data).command.address = piece.addr :=
    Nat.mod_eq_of_lt (by omega)
  rw [haddr]
  exact ⟨hbase, hend, congrArg some hdata⟩

theorem consecutive_plan :
    Consecutive (loadsOf config sent) base (base + (bytes sent).length) := by
  have hplaced : Placed base sent := by
    have hall := placed_plan base useDma (Cipher.encipher payload cipher)
    rw [hplan, placed_append] at hall
    exact hall.1
  have hlength : (bytes sent).length ≤ (Cipher.encipher payload cipher).image.length := by
    rw [← bytes_plan base useDma, hplan, bytes_append, List.length_append]
    exact Nat.le_add_right _ _
  have hspace := image_le_addressSpace hpasses
  refine consecutive_loadsOf hplaced (by omega) ?_
  intro piece hmem
  exact (piece_of_plan hpasses hplan hmem).1.nonempty

end Plan

/-- What was sent of a payload: the bytes of its image from the first one up to an address. -/
structure Delivers (base : Nat) (payload : List UInt8) (cipher : CipherMode) (record : Record)
    (stop : Nat) : Prop where
  orderly : Orderly record
  carried : Carried base (Cipher.encipher payload cipher).image record.loads
  consecutive : Consecutive record.loads base stop
  le_end : stop ≤ base + Cipher.paddedLength payload.length cipher

theorem delivers_nil : Delivers base payload cipher [] base :=
  ⟨orderly_of_halted resting_nil.toHalted nofun, nofun, rfl, Nat.le_add_right _ _⟩

theorem delivers_of_halted {features : BusFeatures} {sent rest : List Piece} {record : Record}
    (hpasses : Passes config base payload useDma cipher features)
    (hplan : plan base useDma (Cipher.encipher payload cipher) = sent ++ rest)
    (h : Halted (loadsOf config sent) record) :
    Delivers base payload cipher record (base + (bytes sent).length) := by
  have himage := congrArg List.length (bytes_plan base useDma (Cipher.encipher payload cipher))
  rw [hplan, bytes_append, List.length_append, Cipher.length_image] at himage
  refine ⟨orderly_of_halted h (inPage_loadsOf hpasses hplan), ?_, ?_, by omega⟩
  · rw [h.loads_eq]
    exact carried_loadsOf hpasses hplan
  · rw [h.loads_eq]
    exact consecutive_plan hpasses hplan

/-- Piece by piece the record grows by the program commands of the pieces. -/
theorem carries_recorded (pieces : List Piece) :
    Carries config useDma pieces
      (fun sent (r : Rig (Recorded σ)) => Resting (loadsOf config sent) r.bus.record)
      fun _ r => ∃ sent rest, pieces = sent ++ rest ∧
        Halted (loadsOf config sent) r.bus.record := by
  refine ⟨fun _ _ _ h => h, ?_⟩
  intro sent piece rest r hplan h
  have hsent : loadsOf config (sent ++ [piece]) =
      loadsOf config sent ++ [loadOf config piece.addr piece.data] := List.map_append
  refine (records_sendPiece useDma piece h r rfl).mono ?_ ?_
  · intro _ after hafter
    rw [hsent]
    exact hafter
  · rintro _ after (hhalted | hhalted)
    · exact ⟨sent, piece :: rest, hplan, hhalted⟩
    · refine ⟨sent ++ [piece], rest, ?_, hsent ▸ hhalted⟩
      rw [hplan, List.append_assoc]
      rfl

/-- A program sends its image from the first byte on, and all of it if it answers. -/
theorem ends_program_recorded {rig : Rig (Recorded σ)} (hrig : rig.bus.record = []) :
    Ends (program config base payload useDma cipher) rig
      (fun _ r => Delivers base payload cipher r.bus.record
        (base + Cipher.paddedLength payload.length cipher))
      fun _ r => ∃ stop, Delivers base payload cipher r.bus.record stop := by
  by_cases hpasses : Passes config base payload useDma cipher (Bus.features rig.bus)
  · let pieces := plan base useDma (Cipher.encipher payload cipher)
    have hstart : Resting (loadsOf config []) rig.bus.record := by
      rw [hrig]
      exact resting_nil
    refine (ends_program_of_passes hpasses hstart (carries_recorded pieces)).mono ?_ ?_
    · rintro _ r ⟨-, hresting⟩
      have hdelivers := delivers_of_halted hpasses (List.append_nil pieces).symm
        hresting.toHalted
      rw [bytes_plan, Cipher.length_image] at hdelivers
      exact hdelivers
    · rintro _ r ⟨sent, rest, hplan, hhalted⟩
      exact ⟨_, delivers_of_halted hpasses hplan hhalted⟩
  · refine (ends_program_of_not_passes hpasses).mono (fun _ _ h => h.elim) ?_
    rintro _ r ⟨rfl, -⟩
    rw [hrig]
    exact ⟨base, delivers_nil⟩

end Payloads

/-! ## Calls -/

/-- The call programs, erases or writes a register. -/
def Call.Writes : Call → Prop
  | .program _ _ _ _ | .programOnePage _ _ | .erase _ _ | .writeParam _ _ => True
  | _ => False

/-- A call that programs a payload sends its image from the first byte on, and all of it if it
answers. -/
theorem delivers_run (config : ControllerConfig) (base : Nat) (payload : List UInt8)
    (useDma : Bool) (cipher : CipherMode) {rig : Rig (Recorded σ)} (hrig : rig.bus.record = []) :
    let ended := (Call.program base payload useDma cipher).run config rig
    ∃ stop, Delivers base payload cipher ended.2.bus.record stop ∧
      (ended.1 = .ok () → stop = base + Cipher.paddedLength payload.length cipher) := by
  have hends : Ends ((Call.program base payload useDma cipher).run config) rig
      (fun _ r => Delivers base payload cipher r.bus.record
        (base + Cipher.paddedLength payload.length cipher))
      fun _ r => ∃ stop, Delivers base payload cipher r.bus.record stop :=
    (ends_program_recorded hrig).bind fun _ _ h => h
  intro ended
  cases hrun : ended with
  | mk outcome after =>
    cases outcome with
    | ok => exact ⟨_, (ends_of_ok hrun).1 hends, fun _ => rfl⟩
    | error failure =>
      obtain ⟨stop, hdelivers⟩ := (ends_of_error hrun).1 hends
      exact ⟨stop, hdelivers, nofun⟩

theorem orderly_run (config : ControllerConfig) {call : Call} (hwrites : call.Writes)
    {rig : Rig (Recorded σ)} (hrig : rig.bus.record = []) :
    Orderly (call.run config rig).2.bus.record := by
  have hdone {op : Op (Recorded σ) Unit}
      (h : Records op [] (fun _ => Resting []) (Halted [])) :
      Orderly (op rig).2.bus.record := by
    have horderly : Records op [] (fun _ => Orderly) Orderly := by
      refine h.mono ?_ ?_
      · intro _ _ hresting
        exact orderly_of_halted hresting.toHalted nofun
      · intro _ hhalted
        exact orderly_of_halted hhalted nofun
    exact horderly.both hrig
  cases call with
  | writeParam opcode value => exact hdone (records_writeParam opcode value resting_nil)
  | erase unit addr => exact hdone (records_erase unit addr resting_nil)
  | programOnePage addr payload => exact (records_programOnePage addr payload).both hrig
  | program base payload useDma cipher =>
    obtain ⟨stop, hdelivers, -⟩ := delivers_run config base payload useDma cipher hrig
    exact hdelivers.orderly
  | _ => exact hwrites.elim

/-- Whatever the bus answers, a call that writes keeps to the grammar and programs inside pages.
A call that programs a payload sends the bytes of its image one after another, and all of them if
it answers. -/
theorem recorded_writing (config : ControllerConfig) (call : Call) (hwrites : call.Writes)
    (bus : σ) (clock : Clock) :
    let ended := call.run config { bus := ({ bus } : Recorded σ), clock }
    Prod.map id (Rig.map Recorded.bus) ended = call.run config { bus, clock } ∧
      Orderly ended.2.bus.record ∧
      ∀ base payload useDma cipher, call = .program base payload useDma cipher →
        ∃ stop, Delivers base payload cipher ended.2.bus.record stop ∧
          (ended.1 = .ok () → stop = base + Cipher.paddedLength payload.length cipher) := by
  refine ⟨(Call.mirrors_run config call _).symm, orderly_run config hwrites rfl, ?_⟩
  rintro base payload useDma cipher rfl
  exact delivers_run config base payload useDma cipher rfl

/-- A new part is sent three bytes across a page boundary, and all of them arrive in order. -/
theorem recorded_across_pages :
    let part := Part.new { size := 512 }
    let call := Call.program 254 [0xA5, 0x5A, 0xC3] false .none
    let ended := call.run {} { bus := ({ bus := part } : Recorded Part), clock := .start }
    call.Writes ∧ ended.1 = .ok () ∧ Orderly ended.2.bus.record ∧
      Consecutive ended.2.bus.record.loads 254 257 := by
  intro part call ended
  obtain ⟨hmirrored, horderly, hdelivers⟩ := recorded_writing {} call trivial part .start
  obtain ⟨stop, hdelivered, hcomplete⟩ := hdelivers _ _ _ _ rfl
  let rig : Rig Part := { bus := part, clock := .start }
  have hsize : part.cells.size = 512 := Part.Cells.size_erased 512
  have hlength : (plan 254 false (Cipher.encipher [0xA5, 0x5A, 0xC3] .none)).length = 2 := by cbv
  have hable : Able {} false rig :=
    ⟨by decide, rfl, rfl, fun _ => id, rfl, fun _ => by decide,
      fun h => absurd h Bool.false_ne_true, by decide⟩
  have hpasses : Passes {} 254 [0xA5, 0x5A, 0xC3] false .none (Bus.features rig.bus) :=
    ⟨rfl, fun h => absurd h Bool.false_ne_true, rfl⟩
  have hfit : 254 + Cipher.paddedLength 3 .none ≤ rig.part.cells.size := by
    show _ ≤ part.cells.size
    rw [hsize]
    decide
  have hanswers := ends_program_of_able hable hpasses hfit (by rw [hlength]; decide)
  obtain ⟨stats, after, hrun, -⟩ := hanswers.exists_ok
  have hplain : (call.run {} rig).1 = .ok () := by
    have hends : Ends (call.run {}) rig (fun _ _ => True) fun _ _ => False :=
      hanswers.bind (fun _ _ _ => trivial)
    obtain ⟨_, _, hcall, -⟩ := hends.exists_ok
    rw [hcall]
  have hended : ended.1 = .ok () := by
    rw [← hplain]
    exact congrArg Prod.fst hmirrored
  refine ⟨trivial, hended, horderly, ?_⟩
  rw [← show stop = 257 from hcomplete hended]
  exact hdelivered.consecutive

end Controller

end CardReader.Flash
