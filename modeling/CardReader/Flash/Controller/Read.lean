import CardReader.Flash.Controller.Config
import CardReader.Flash.Sequence

/-!
# Reading

A range is read in chunks no larger than the read FIFO, one transaction a chunk.
-/

namespace CardReader.Flash

namespace Controller

variable {σ : Type} [Bus σ]

/-- The read command for `len` bytes at an address. -/
def readCommand (config : ControllerConfig) (addr len : Nat) : Command :=
  (Command.read config.readMode.readOpcode addr len config.readMode.readDummyCycles).withMode
    config.readMode

/-- Reads one chunk.  Whatever keeps the data from coming out of the FIFO is a failed read. -/
def readPiece (config : ControllerConfig) (addr len : Nat) : Op σ (Vector UInt8 len) := do
  Op.update Bus.flushFifos
  let _ ← Sequence.transact (readCommand config addr len) config.poll
  Op.mapFailure (fun _ => .readFailed) (Op.call (Bus.readFifo · len))

/-- Reads `len` bytes in chunks of at most `size`, onto the bytes already read, which stand in
reverse order. -/
def readPieces (config : ControllerConfig) (size : Nat) (addr len : Nat) (done : List UInt8) :
    Op σ (List UInt8) :=
  if _more : len = 0 ∨ size = 0 then pure done.reverse
  else do
    let count := min size len
    let piece ← readPiece config addr count
    readPieces config size (addr + count) (len - count) (piece.toList.reverseAux done)
termination_by len

/-- Reads `len` bytes from an address on. -/
def read (config : ControllerConfig) (addr len : Nat) : Op σ (List UInt8) := do
  Op.check (checkRange addr len)
  let features ← Op.inspect Bus.features
  Op.check (config.readMode.check features)
  let depth ← Op.inspect Bus.readDepth
  readPieces config (max (min readChunk depth) 1) addr len []

end Controller

end CardReader.Flash
