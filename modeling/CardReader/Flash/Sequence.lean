import CardReader.Flash.JedecId
import CardReader.Flash.Op

/-!
# Command sequences

The handful of transactions from which every flash operation is made.  A transaction is issued
and then polled until the controller reports it as over; a part is ready once its status shows no
write in progress.  Every wait is bounded by a poll policy, and running out of time ends the
sequence: nothing is retried.
-/

namespace CardReader.Flash

namespace Sequence

variable {σ : Type} [Bus σ]

/-! ## Transactions -/

/-- Waits until the controller has finished the transaction in flight and answers with its
register value. -/
def waitDone (opcode : UInt8) (policy : PollPolicy) : Op σ UInt32 :=
  Op.wait (Op.call Bus.pollDone) (Op.forward_call _) (.commandTimeout opcode) policy

/-- Issues a transaction and waits for its end; answers with the completed command. -/
def transact (command : Command) (policy : PollPolicy) : Op σ Command := do
  Op.call (Bus.issue · command)
  let value ← waitDone command.opcode policy
  return command.withReadData value

theorem forward_transact (command : Command) (policy : PollPolicy) :
    Op.Forward (transact command policy : Op σ Command) :=
  Op.forward_bind (Op.forward_call _) fun _ =>
    Op.forward_bind (Op.forward_wait _ _ _ _) fun _ => Op.forward_pure _

/-- Sends an opcode on its own. -/
def singleCommand (opcode : UInt8) (mode : BusMode) (policy : PollPolicy) : Op σ Unit := do
  let _ ← transact ((Command.simple opcode).withMode mode) policy

/-- Sets the write enable latch. -/
def writeEnable (mode : BusMode) (policy : PollPolicy) : Op σ Unit :=
  singleCommand Opcode.writeEnable mode policy

/-! ## Status -/

/-- Reads a status register. -/
def readStatus (opcode : UInt8) (policy : PollPolicy) : Op σ UInt8 := do
  let done ← transact (Command.readRegister opcode 1) policy
  return done.readData.toUInt8

theorem forward_readStatus (opcode : UInt8) (policy : PollPolicy) :
    Op.Forward (readStatus opcode policy : Op σ UInt8) :=
  Op.forward_bind (forward_transact _ _) fun _ => Op.forward_pure _

/-- Reads the status once and answers if no write is in progress. -/
def readyProbe (policy : PollPolicy) : Op σ (Option Unit) := do
  let status ← readStatus Opcode.readStatus1 policy
  return if status &&& StatusBit.writeInProgress = 0 then some () else none

theorem forward_readyProbe (policy : PollPolicy) :
    Op.Forward (readyProbe policy : Op σ (Option Unit)) :=
  Op.forward_bind (forward_readStatus _ _) fun _ => Op.forward_pure _

/-- Waits until the part has no write in progress. -/
def waitReady (policy : PollPolicy) : Op σ Unit :=
  Op.wait (readyProbe policy) (forward_readyProbe policy) .busyTimeout policy

/-- Writes a status register, in one byte or in two, and waits until the part is ready. -/
def writeStatus (opcode : UInt8) (value : UInt16) (len : Nat) (policy : PollPolicy) :
    Op σ Unit := do
  writeEnable .single policy
  let _ ← transact (Command.writeRegister opcode value len) policy
  waitReady policy

/-! ## Identification -/

/-- Reads the JEDEC id. -/
def readJedecId (policy : PollPolicy) : Op σ JedecId := do
  let done ← transact (Command.readRegister Opcode.readJedecId 3) policy
  return JedecId.ofRaw (done.readData &&& 0xFFFFFF)

/-! ## DMA -/

/-- Runs an operation while a DMA channel is claimed.  The channel is given back whatever becomes
of the operation; a claim that is refused is not given back. -/
def withChannel {α : Type} (channel : Nat) (body : Op σ α) : Op σ α := do
  let features ← Op.inspect Bus.features
  if features.dma then
    Op.call (Bus.dmaAcquire · channel)
    fun rig =>
      match body rig with
      | (outcome, ⟨bus, clock, progress⟩) => (outcome, ⟨Bus.dmaRelease channel bus, clock, progress⟩)
  else Op.fail .dmaNotSupported

/-- Asks whether a channel has moved its whole block. -/
def idleProbe (channel : Nat) : Op σ (Option Unit) :=
  Op.call fun clock bus => (.ok (if Bus.dmaIdle clock channel bus then some () else none), bus)

/-- Waits until a channel has moved its whole block. -/
def waitIdle (channel : Nat) (policy : PollPolicy) : Op σ Unit :=
  Op.wait (idleProbe channel) (Op.forward_call _) .dmaTimeout policy

end Sequence

end CardReader.Flash
