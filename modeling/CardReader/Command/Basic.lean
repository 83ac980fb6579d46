import CardReader.Flash.Op
import CardReader.Interaction
import CardReader.Text.Hex

/-!
# Commands

A command works on a state, talks to the world around it, and may fail.  What it did to its state
and what it printed before it failed stays.
-/

namespace CardReader

/-- Why a command failed. -/
inductive CommandFault where
  /-- An operation on the flash failed. -/
  | flash (failure : Flash.Failure)
  /-- A file could not be read or written. -/
  | file (fault : FileFault)
  /-- An argument is no hexadecimal text. -/
  | hex (refusal : Hex.Refusal)
  /-- The identification is blank. -/
  | noPart
  /-- The file to be programmed holds nothing. -/
  | emptyInput
  /-- The address is not that of a cipher block. -/
  | unalignedBlock (blockSize : Nat)
  /-- What was read back is not what was programmed. -/
  | mismatch (addr : Nat) (expected got : UInt8)
  /-- The value does not fit a status register. -/
  | valueTooLarge (value : Nat)
  /-- The reader did not activate the card. -/
  | notActivated (error : UInt8)
  /-- The payload exceeds what a message can hold. -/
  | payloadTooLong (length limit : Nat)
  /-- The reader answered nothing. -/
  | noResponse
  deriving DecidableEq

namespace CommandFault

/-- A byte as messages show it. -/
def byte (value : UInt8) : String := "0x" ++ Hex.padded 2 value.toNat

/-- The wording of a fault. -/
def message : CommandFault → String
  | flash failure => failure.message
  | file fault => fault.message
  | hex refusal => refusal.message
  | noPart => "No flash answered (blank JEDEC ID)"
  | emptyInput => "Input file is empty"
  | unalignedBlock blockSize =>
    "Cipher programming needs a " ++ toString blockSize ++ "-byte aligned address"
  | mismatch addr expected got =>
    "Verification failed at 0x" ++ Hex.padded 6 addr ++ ": expected " ++ byte expected ++
      ", got " ++ byte got
  | valueTooLarge value => "Value 0x" ++ Hex.number value ++ " too large"
  | notActivated error => "PowerOn failed with error " ++ byte error
  | payloadTooLong length limit =>
    "payload of " ++ toString length ++ " bytes exceeds " ++ toString limit ++ " byte limit"
  | noResponse => "reader produced no response"

end CommandFault

/-- A command on a state of type `σ`. -/
abbrev Command (σ : Type) := ExceptT CommandFault (StateT σ Interaction)

namespace Command

variable {σ α : Type}

/-- Prints a line. -/
def print (line : String) : Command σ Unit := fun state =>
  .print line fun _ => .done (.ok (), state)

/-- Reads a file. -/
def readFile (path : String) : Command σ ByteArray := fun state =>
  .read path fun contents => .done (contents.mapError .file, state)

/-- Writes a file. -/
def writeFile (path : String) (contents : ByteArray) : Command σ Unit := fun state =>
  .write path contents fun outcome => .done (outcome.mapError .file, state)

/-- Carries out an operation on the flash. -/
def flash (op : Flash.Op σ α) : Command (Flash.Rig σ) α := fun rig =>
  match op rig with
  | (outcome, rig) => .done (outcome.mapError .flash, rig)

/-- Goes on only after a check. -/
def check (outcome : Except CommandFault Unit) : Command σ Unit := fun state =>
  .done (outcome, state)

end Command

end CardReader
