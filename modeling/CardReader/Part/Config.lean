import CardReader.Flash.Controller.Config
import CardReader.Text.Hex

/-!
# Configuration of a part

How a simulated part behaves, what its controller can drive, and the settings under which it is
used.  A configuration is valid if its array is a power of two that fits the address space and
both FIFOs hold something.
-/

namespace CardReader.Part

/-- The behaviour and geometry of a part and the settings of its controller. -/
structure Config where
  /-- The JEDEC id, of which 24 bits count. -/
  jedecId : UInt32 := 0xC84018
  /-- Bytes in the array. -/
  size : Nat := 16 * 1024 * 1024
  /-- Microseconds that one page program takes. -/
  pageProgramTime : Nat := 700
  /-- Microseconds that a sector erase takes. -/
  sectorEraseTime : Nat := 45000
  /-- Microseconds that the erase of a small block takes. -/
  block32EraseTime : Nat := 120000
  /-- Microseconds that the erase of a large block takes. -/
  block64EraseTime : Nat := 150000
  /-- Microseconds that a chip erase takes. -/
  chipEraseTime : Nat := 5000000
  /-- Microseconds that a status register write takes. -/
  writeStatusTime : Nat := 5000
  /-- Microseconds after a reset during which commands are ignored. -/
  resetRecoveryTime : Nat := 30000
  /-- Microseconds after deep power down during which commands are ignored. -/
  releaseTime : Nat := 20
  /-- Bytes that the read FIFO holds. -/
  readDepth : Nat := 16
  /-- Bytes that the write FIFO holds. -/
  writeDepth : Nat := 32
  /-- DMA channels that can feed the write FIFO. -/
  dmaChannels : Nat := 1
  /-- Two lines can be driven. -/
  dual : Bool := true
  /-- Four lines can be driven. -/
  quad : Bool := true
  /-- The file that holds the initial contents of the array. -/
  image : Option String := none
  /-- The settings of the controller. -/
  controller : Flash.ControllerConfig := {}
  deriving DecidableEq

namespace Config

/-- The largest array that the address space can hold. -/
def maxSize : Nat := 0x1000000

/-- Why a configuration is unusable. -/
inductive Defect where
  /-- The array size is not a power of two that fits the address space. -/
  | badSize (size : Nat)
  /-- A FIFO holds nothing. -/
  | emptyFifo
  deriving DecidableEq

/-- The wording of a defect. -/
def Defect.message : Defect → String
  | .badSize size => "size 0x" ++ Hex.number size ++ " must be a power of two up to 16 MiB"
  | .emptyFifo => "FIFO depths must be non-zero"

/-- Whether a number is a power of two. -/
def isPowerOfTwo (n : Nat) : Bool := n != 0 && n == Nat.pow 2 n.log2

/-- Accepts a usable configuration. -/
def validate (config : Config) : Except Defect Unit :=
  if !isPowerOfTwo config.size || maxSize < config.size then .error (.badSize config.size)
  else if config.readDepth = 0 ∨ config.writeDepth = 0 then .error .emptyFifo
  else .ok ()

end Config

end CardReader.Part
