import CardReader.Part.Bus

/-!
# A part on a faulty bus

The same part behind a bus on which calls of five kinds can fail before they reach it.  The calls
of each kind are counted, and a schedule says which of them fail and how; nothing is changed or
logged by a call that fails so.
-/

namespace CardReader

open Flash

/-- The kinds of calls that can be made to fail. -/
inductive CallKind where
  | issue
  | pollDone
  | writeFifo
  | readFifo
  | dmaStart
  deriving DecidableEq

/-- Which calls of one kind fail, by their number since the schedule was set. -/
structure FaultSchedule where
  /-- Calls counted so far. -/
  calls : Nat := 0
  /-- The failure of a call with a given number, if it is to fail. -/
  failure : Nat → Option Failure := fun _ => none
  /-- The only opcode whose commands count, where there is one. -/
  opcode : Option UInt8 := none

namespace FaultSchedule

/-- All calls fail after the first `skip`. -/
def after (skip : Nat) (failure : Failure) (opcode : Option UInt8) : FaultSchedule :=
  { failure := fun call => if call < skip then none else some failure, opcode }

end FaultSchedule

/-- The schedules of all kinds of calls. -/
structure FaultPlan where
  /-- Commands issued. -/
  issue : FaultSchedule := {}
  /-- Polls for the end of a transaction. -/
  pollDone : FaultSchedule := {}
  /-- Bytes queued in the write FIFO. -/
  writeFifo : FaultSchedule := {}
  /-- Bytes taken from the read FIFO. -/
  readFifo : FaultSchedule := {}
  /-- DMA blocks started. -/
  dmaStart : FaultSchedule := {}

namespace FaultPlan

/-- The schedule of one kind of call. -/
def get (plan : FaultPlan) : CallKind → FaultSchedule
  | .issue => plan.issue
  | .pollDone => plan.pollDone
  | .writeFifo => plan.writeFifo
  | .readFifo => plan.readFifo
  | .dmaStart => plan.dmaStart

/-- The plan with another schedule for one kind of call. -/
def set (plan : FaultPlan) (kind : CallKind) (schedule : FaultSchedule) : FaultPlan :=
  match kind with
  | .issue => { plan with issue := schedule }
  | .pollDone => { plan with pollDone := schedule }
  | .writeFifo => { plan with writeFifo := schedule }
  | .readFifo => { plan with readFifo := schedule }
  | .dmaStart => { plan with dmaStart := schedule }

/-- The fate of the next call of a kind, and the plan with that call counted. -/
def next (plan : FaultPlan) (kind : CallKind) : Option Failure × FaultPlan :=
  let schedule := plan.get kind
  (schedule.failure schedule.calls, plan.set kind { schedule with calls := schedule.calls + 1 })

end FaultPlan

/-- A part behind a bus whose calls fail as planned. -/
structure FaultyPart where
  /-- The part. -/
  part : Part
  /-- Which calls fail. -/
  plan : FaultPlan := {}

namespace FaultyPart

/-- Makes a call of the part. -/
@[inline] def reach {α : Type} (call : Part → Except Failure α × Part) (faulty : FaultyPart) :
    Except Failure α × FaultyPart :=
  match faulty with
  | ⟨part, plan⟩ =>
    match call part with
    | (outcome, part) => (outcome, ⟨part, plan⟩)

/-- Makes a call of the part unless it is planned to fail. -/
@[inline] def attempt {α : Type} (kind : CallKind) (call : Part → Except Failure α × Part)
    (faulty : FaultyPart) : Except Failure α × FaultyPart :=
  match faulty with
  | ⟨part, plan⟩ =>
    match plan.next kind with
    | (some failure, plan) => (.error failure, ⟨part, plan⟩)
    | (none, plan) => reach call ⟨part, plan⟩

/-- Whether a command counts as one of the commands issued. -/
def counts (faulty : FaultyPart) (command : Command) : Bool :=
  match faulty.plan.issue.opcode with
  | some opcode => command.opcode == opcode
  | none => true

/-- Issues a command unless it counts and is planned to fail. -/
def issue (clock : Clock) (command : Command) (faulty : FaultyPart) :
    Except Failure Unit × FaultyPart :=
  if faulty.counts command then attempt .issue (Bus.issue clock command) faulty
  else reach (Bus.issue clock command) faulty

instance : Bus FaultyPart where
  features faulty := faulty.part.features
  readDepth faulty := Bus.readDepth faulty.part
  writeDepth faulty := Bus.writeDepth faulty.part
  writeLevel clock faulty := Bus.writeLevel clock faulty.part
  setDeviceParams value faulty := { faulty with part := Bus.setDeviceParams value faulty.part }
  flushFifos faulty := { faulty with part := Bus.flushFifos faulty.part }
  writeFifo clock data := attempt .writeFifo (Bus.writeFifo clock data)
  readFifo clock count := attempt .readFifo (Bus.readFifo clock count)
  issue := issue
  pollDone clock := attempt .pollDone (Bus.pollDone clock)
  dmaAcquire clock channel := reach (Bus.dmaAcquire clock channel)
  dmaStart clock channel block := attempt .dmaStart (Bus.dmaStart clock channel block)
  dmaIdle clock channel faulty := Bus.dmaIdle clock channel faulty.part
  dmaRelease channel faulty := { faulty with part := Bus.dmaRelease channel faulty.part }

end FaultyPart

end CardReader
