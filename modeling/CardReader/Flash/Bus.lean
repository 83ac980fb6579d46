import CardReader.Clock
import CardReader.Flash.Command

/-!
# The bus

What a QSPI controller offers at register level, as operations on a state of any type.  A
transaction starts when it is issued and is over when a poll says so; data goes through a read
FIFO and a write FIFO, and a DMA channel can feed the latter.  A bus may look at the clock, cannot
move it, and may fail or answer anything at any time; whatever a call did to the state stays done
also when it fails.
-/

namespace CardReader.Flash

/-- A controller whose state is of type `σ`. -/
class Bus (σ : Type) where
  /-- What the controller can drive. -/
  features : σ → BusFeatures
  /-- Bytes that the read FIFO holds. -/
  readDepth : σ → Nat := fun _ => 16
  /-- Bytes that the write FIFO holds. -/
  writeDepth : σ → Nat := fun _ => 32
  /-- Bytes waiting in the write FIFO. -/
  writeLevel : Clock → σ → Nat
  /-- Writes the device parameter register. -/
  setDeviceParams : UInt32 → σ → σ
  /-- Empties both FIFOs. -/
  flushFifos : σ → σ
  /-- Queues bytes in the write FIFO, all of them or none. -/
  writeFifo : Clock → List UInt8 → σ → Except Failure Unit × σ
  /-- Takes a number of bytes from the read FIFO. -/
  readFifo : Clock → (count : Nat) → σ → Except Failure (Vector UInt8 count) × σ
  /-- Starts a transaction. -/
  issue : Clock → Command → σ → Except Failure Unit × σ
  /-- Asks for the register value of the last transaction, which is there once it is over. -/
  pollDone : Clock → σ → Except Failure (Option UInt32) × σ
  /-- Claims a DMA channel for the write FIFO. -/
  dmaAcquire : Clock → Nat → σ → Except Failure Unit × σ :=
    fun _ _ bus => (.error .dmaNotSupported, bus)
  /-- Loads a block into a claimed channel and lets it run. -/
  dmaStart : Clock → Nat → List UInt8 → σ → Except Failure Unit × σ :=
    fun _ _ _ bus => (.error .dmaNotSupported, bus)
  /-- Whether a channel has moved its whole block into the FIFO. -/
  dmaIdle : Clock → Nat → σ → Bool := fun _ _ _ => true
  /-- Stops a channel and gives it back. -/
  dmaRelease : Nat → σ → σ := fun _ bus => bus

end CardReader.Flash
