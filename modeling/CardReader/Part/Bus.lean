import CardReader.Part.Basic

/-!
# A part as a bus

The register-level calls of the controller of a simulated part.
-/

namespace CardReader

open Flash

namespace Part

/-- Queues bytes in the write FIFO and lets a waiting program have them. -/
def queue (clock : Clock) (data : List UInt8) (part : Part) : Except Failure Unit × Part :=
  if part.config.writeDepth - part.writeFifo.length < data.length then
    (.error .fifoOverflow, part)
  else (.ok (), { part with writeFifo := part.writeFifo ++ data }.feed clock)

/-- Takes bytes from the read FIFO. -/
def take (count : Nat) (part : Part) : Except Failure (Vector UInt8 count) × Part :=
  let taken := (part.readFifo.take count).toArray
  if h : taken.size = count then
    (.ok ⟨taken, h⟩, { part with readFifo := part.readFifo.drop count })
  else (.error .readFailed, part)

/-- Starts a transaction, which ends the one before it.  Every command is logged, also one that
the controller cannot drive. -/
def issue (clock : Clock) (command : Command) (part : Part) : Except Failure Unit × Part :=
  let part := { part with log := part.log.push command }
  match command.mode.check part.features with
  | .error failure => (.error failure, part)
  | .ok () =>
    match execute clock command { part with transaction := none } with
    | (.ok transaction, part) => (.ok (), { part with transaction := some transaction })
    | (.error failure, part) => (.error failure, part)

/-- Reports the register value of the last transaction once it is over. -/
def pollDone (clock : Clock) (part : Part) : Except Failure (Option UInt32) × Part :=
  if part.faults.unresponsive then (.ok none, part)
  else
    let part := part.feed clock
    match part.transaction with
    | some (.done value) => (.ok (some value), part)
    | some (.streaming _ _ _) => (.ok none, part)
    | none => (.ok (some 0), part)

/-- Claims a DMA channel. -/
def dmaAcquire (channel : Nat) (part : Part) : Except Failure Unit × Part :=
  if part.config.dmaChannels ≤ channel then (.error .dmaNotSupported, part)
  else if part.dma.isSome then (.error .dmaChannelBusy, part)
  else (.ok (), { part with dma := some { channel } })

/-- Loads a block into a claimed channel and lets a waiting program have it. -/
def dmaStart (clock : Clock) (channel : Nat) (block : List UInt8) (part : Part) :
    Except Failure Unit × Part :=
  match part.dma with
  | some claim =>
    if claim.channel = channel then
      (.ok (), { part with dma := some { claim with block } }.feed clock)
    else (.error .dmaChannelBusy, part)
  | none => (.error .dmaChannelBusy, part)

/-- Whether a channel has moved its block; one that is not claimed has nothing to move. -/
def dmaIdle (channel : Nat) (part : Part) : Bool :=
  match part.dma with
  | some claim =>
    if claim.channel = channel then claim.block.isEmpty && !part.faults.dmaStall else true
  | none => true

/-- Gives a channel back, if it is the one that is claimed. -/
def dmaRelease (channel : Nat) (part : Part) : Part :=
  match part.dma with
  | some claim => if claim.channel = channel then { part with dma := none } else part
  | none => part

instance : Bus Part where
  features := Part.features
  readDepth part := part.config.readDepth
  writeDepth part := part.config.writeDepth
  writeLevel _ part := part.writeFifo.length
  setDeviceParams value part := { part with deviceParams := value }
  flushFifos part := { part with readFifo := [], writeFifo := [] }
  writeFifo := Part.queue
  readFifo _ := Part.take
  issue := Part.issue
  pollDone := Part.pollDone
  dmaAcquire _ := Part.dmaAcquire
  dmaStart := Part.dmaStart
  dmaIdle _ := Part.dmaIdle
  dmaRelease := Part.dmaRelease

end Part

end CardReader
