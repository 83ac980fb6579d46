/-!
# Opcodes

The command dictionary of serial NOR flash, the bits of its status registers, and the instruction
that an opcode byte stands for.
-/

namespace CardReader.Flash

namespace Opcode

/-! ## Reset and mode control -/

/-- Reset enable. -/
def resetEnable : UInt8 := 0x66
/-- Reset. -/
def reset : UInt8 := 0x99
/-- Enter the mode in which commands use four lines. -/
def enterQuad : UInt8 := 0x38
/-- Leave the mode in which commands use four lines. -/
def leaveQuad : UInt8 := 0xFF

/-! ## Identification -/

/-- Read manufacturer and device id. -/
def readManufacturer : UInt8 := 0x90
/-- Read manufacturer and device id on two lines. -/
def readManufacturerDual : UInt8 := 0x92
/-- Read manufacturer and device id on four lines. -/
def readManufacturerQuad : UInt8 := 0x94
/-- Read the JEDEC id. -/
def readJedecId : UInt8 := 0x9F

/-! ## Reading -/

/-- Read data without dummy cycles. -/
def readData : UInt8 := 0x03
/-- Fast read on one line. -/
def fastRead : UInt8 := 0x0B
/-- Fast read, data on two lines. -/
def dualOutRead : UInt8 := 0x3B
/-- Fast read, address and data on two lines. -/
def dualIoRead : UInt8 := 0xBB
/-- Fast read, data on four lines. -/
def quadOutRead : UInt8 := 0x6B
/-- Fast read, address and data on four lines. -/
def quadIoRead : UInt8 := 0xEB

/-! ## Write control and status -/

/-- Write enable. -/
def writeEnable : UInt8 := 0x06
/-- Write disable. -/
def writeDisable : UInt8 := 0x04
/-- Read status register 1. -/
def readStatus1 : UInt8 := 0x05
/-- Read status register 2. -/
def readStatus2 : UInt8 := 0x35
/-- Read status register 3. -/
def readStatus3 : UInt8 := 0x15
/-- Write status register 1, and 2 with it if two bytes are sent. -/
def writeStatus1 : UInt8 := 0x01
/-- Write status register 2. -/
def writeStatus2 : UInt8 := 0x31
/-- Write status register 3. -/
def writeStatus3 : UInt8 := 0x11

/-! ## Programming and erasing -/

/-- Page program on one line. -/
def pageProgram : UInt8 := 0x02
/-- Page program, data on four lines. -/
def quadPageProgram : UInt8 := 0x32
/-- Erase a sector. -/
def sectorErase : UInt8 := 0x20
/-- Erase a small block. -/
def block32Erase : UInt8 := 0x52
/-- Erase a large block. -/
def block64Erase : UInt8 := 0xD8
/-- Erase the whole part. -/
def chipErase : UInt8 := 0xC7
/-- Suspend a program or erase. -/
def suspend : UInt8 := 0x75
/-- Resume a program or erase. -/
def resume : UInt8 := 0x7A
/-- Set the burst length of wrapped reads. -/
def setBurstWrap : UInt8 := 0x77

/-! ## Power -/

/-- Enter deep power down. -/
def deepPowerDown : UInt8 := 0xB9
/-- Leave deep power down. -/
def releasePowerDown : UInt8 := 0xAB

/-- The dictionary in its customary order. -/
def dictionary : List UInt8 :=
  [resetEnable, reset, enterQuad, leaveQuad, readManufacturer, readManufacturerDual,
    readManufacturerQuad, readJedecId, readData, fastRead, dualOutRead, dualIoRead, quadOutRead,
    quadIoRead, writeEnable, writeDisable, readStatus1, readStatus2, readStatus3, writeStatus1,
    writeStatus2, writeStatus3, pageProgram, quadPageProgram, sectorErase, block32Erase,
    block64Erase, chipErase, suspend, resume, setBurstWrap, deepPowerDown, releasePowerDown]

end Opcode

/-! ## Status bits -/

namespace StatusBit

/-- Write in progress, in register 1. -/
def writeInProgress : UInt8 := 0x01
/-- Write enable latch, in register 1. -/
def writeEnableLatch : UInt8 := 0x02
/-- Quad enable, in register 2. -/
def quadEnable : UInt8 := 0x02
/-- Program or erase suspended, in register 2. -/
def suspended : UInt8 := 0x80

end StatusBit

/-! ## Instructions -/

/-- One of the three status registers. -/
inductive StatusRegister where
  | one
  | two
  | three
  deriving DecidableEq

/-- What a part can be asked to erase. -/
inductive EraseUnit where
  | sector
  | block32
  | block64
  | chip
  deriving DecidableEq

/-- What a part does on an opcode. -/
inductive Instruction where
  /-- Set the write enable latch. -/
  | writeEnable
  /-- Clear the write enable latch. -/
  | writeDisable
  /-- Report a status register. -/
  | readStatus (register : StatusRegister)
  /-- Change a status register. -/
  | writeStatus (register : StatusRegister)
  /-- Report the JEDEC id. -/
  | readJedecId
  /-- Report manufacturer and device id. -/
  | readManufacturer
  /-- Fill the read FIFO from the array. -/
  | read
  /-- Program the array from the write FIFO. -/
  | program
  /-- Erase a unit of the array. -/
  | erase (unit : EraseUnit)
  /-- Arm a reset. -/
  | resetEnable
  /-- Reset, if it has been armed. -/
  | reset
  /-- Enter deep power down. -/
  | deepPowerDown
  /-- Leave deep power down. -/
  | releasePowerDown
  /-- Suspend a program or erase. -/
  | suspend
  /-- Accepted without effect, like every opcode that the part does not know. -/
  | ignored
  deriving DecidableEq

open Opcode in
/-- The instruction that an opcode byte stands for. -/
def Instruction.ofOpcode (opcode : UInt8) : Instruction :=
  if opcode = Opcode.writeEnable then .writeEnable
  else if opcode = Opcode.writeDisable then .writeDisable
  else if opcode = readStatus1 then .readStatus .one
  else if opcode = readStatus2 then .readStatus .two
  else if opcode = readStatus3 then .readStatus .three
  else if opcode = writeStatus1 then .writeStatus .one
  else if opcode = writeStatus2 then .writeStatus .two
  else if opcode = writeStatus3 then .writeStatus .three
  else if opcode = Opcode.readJedecId then .readJedecId
  else if opcode = Opcode.readManufacturer then .readManufacturer
  else if opcode ∈ [readData, fastRead, dualOutRead, dualIoRead, quadOutRead, quadIoRead] then .read
  else if opcode = pageProgram ∨ opcode = quadPageProgram then .program
  else if opcode = sectorErase then .erase .sector
  else if opcode = block32Erase then .erase .block32
  else if opcode = block64Erase then .erase .block64
  else if opcode = chipErase then .erase .chip
  else if opcode = Opcode.resetEnable then .resetEnable
  else if opcode = Opcode.reset then .reset
  else if opcode = Opcode.deepPowerDown then .deepPowerDown
  else if opcode = Opcode.releasePowerDown then .releasePowerDown
  else if opcode = Opcode.suspend then .suspend
  else .ignored

end CardReader.Flash
