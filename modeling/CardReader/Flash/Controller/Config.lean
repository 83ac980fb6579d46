import CardReader.Clock
import CardReader.Flash.BusMode
import CardReader.Flash.DeviceParams

/-!
# Controller settings

The settings of the flash engine, and the fixed sizes and times that it works with.
-/

namespace CardReader.Flash

/-- The settings under which a controller works. -/
structure ControllerConfig where
  /-- The policy of every bounded wait. -/
  poll : PollPolicy := {}
  /-- The bus mode of page programs. -/
  programMode : BusMode := .single
  /-- The bus mode of reads. -/
  readMode : BusMode := .single
  /-- The DMA channel that feeds the write FIFO. -/
  dmaChannel : Nat := 0
  /-- What goes into the device parameter register. -/
  device : DeviceParams := {}
  deriving DecidableEq

namespace Controller

/-- Bytes staged for one program transaction that is fed through the register. -/
def registerChunk : Nat := 4

/-- Bytes staged for one program transaction that is fed by DMA. -/
def dmaChunk : Nat := 256

/-- Bytes fetched by one read transaction. -/
def readChunk : Nat := 16

/-- Microseconds to wait after a reset before the part accepts commands. -/
def resetSettle : Nat := 40000

/-- Microseconds to wait after deep power down. -/
def releaseSettle : Nat := 100

end Controller

end CardReader.Flash
