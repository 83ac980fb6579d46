import CardReader.Flash.BusMode
import CardReader.Flash.Geometry

/-!
# Commands

A command is one transaction of the QSPI controller: an opcode in one of fourteen fixed frame
formats, with the address, register value or data length that the format carries.
-/

namespace CardReader.Flash

/-! ## Frame formats -/

/-- What follows the opcode of a transaction. -/
inductive FrameFormat where
  /-- Nothing. -/
  | opcodeOnly
  /-- One register byte is read. -/
  | readRegister8
  /-- Two register bytes are read. -/
  | readRegister16
  /-- Three register bytes are read. -/
  | readRegister24
  /-- After 24 dummy bits one register byte is read. -/
  | dummyReadRegister8
  /-- After an address one register byte is read. -/
  | addressReadRegister8
  /-- After an address two register bytes are read. -/
  | addressReadRegister16
  /-- One register byte is written. -/
  | writeRegister8
  /-- Two register bytes are written. -/
  | writeRegister16
  /-- An address. -/
  | addressOnly
  /-- After an address data goes into the read FIFO. -/
  | addressReadData
  /-- After an address and dummy cycles data goes into the read FIFO. -/
  | addressDummyReadData
  /-- After an address, a mode byte and dummy cycles data goes into the read FIFO. -/
  | addressModeDummyReadData
  /-- After an address data is programmed from the write FIFO. -/
  | addressProgramData
  deriving DecidableEq

namespace FrameFormat

/-- Every format in the order of its code. -/
def all : List FrameFormat :=
  [opcodeOnly, readRegister8, readRegister16, readRegister24, dummyReadRegister8,
    addressReadRegister8, addressReadRegister16, writeRegister8, writeRegister16, addressOnly,
    addressReadData, addressDummyReadData, addressModeDummyReadData, addressProgramData]

/-- The value of the controller's format field. -/
def code : FrameFormat → Nat
  | opcodeOnly => 0x00
  | readRegister8 => 0x01
  | readRegister16 => 0x02
  | readRegister24 => 0x03
  | dummyReadRegister8 => 0x04
  | addressReadRegister8 => 0x05
  | addressReadRegister16 => 0x06
  | writeRegister8 => 0x07
  | writeRegister16 => 0x08
  | addressOnly => 0x09
  | addressReadData => 0x0A
  | addressDummyReadData => 0x0B
  | addressModeDummyReadData => 0x0C
  | addressProgramData => 0x0D

/-- The format with a given code. -/
def ofCode? (code : Nat) : Option FrameFormat := all.find? fun format => format.code == code

/-- Whether the frame carries an address. -/
def hasAddress : FrameFormat → Bool
  | addressReadRegister8 | addressReadRegister16 | addressOnly | addressReadData
  | addressDummyReadData | addressModeDummyReadData | addressProgramData => true
  | _ => false

/-- Bytes returned through the read register. -/
def registerReadLength : FrameFormat → Nat
  | readRegister8 | dummyReadRegister8 | addressReadRegister8 => 1
  | readRegister16 | addressReadRegister16 => 2
  | readRegister24 => 3
  | _ => 0

/-- Bytes sent from the write register. -/
def registerWriteLength : FrameFormat → Nat
  | writeRegister8 => 1
  | writeRegister16 => 2
  | _ => 0

/-- Whether the data phase fills the read FIFO. -/
def fillsReadFifo : FrameFormat → Bool
  | addressReadData | addressDummyReadData | addressModeDummyReadData => true
  | _ => false

/-- Whether the data phase drains the write FIFO. -/
def drainsWriteFifo : FrameFormat → Bool
  | addressProgramData => true
  | _ => false

end FrameFormat

/-! ## Commands -/

/-- One transaction of the controller. -/
structure Command where
  /-- The opcode byte. -/
  opcode : UInt8
  /-- Lines used for address and data. -/
  mode : BusMode := .single
  /-- What follows the opcode. -/
  format : FrameFormat
  /-- The address, of no meaning unless the format has one. -/
  address : Nat := 0
  /-- The register value sent by the formats that write a register. -/
  writeData : UInt32 := 0
  /-- The register value returned by the formats that read one; zero until the command is done. -/
  readData : UInt32 := 0
  /-- Bytes in the data phase. -/
  dataLength : Nat := 0
  /-- Dummy cycles before the data phase. -/
  dummyCycles : Nat := 0
  deriving DecidableEq

namespace Command

/-- An opcode on its own. -/
def simple (opcode : UInt8) : Command := { opcode, format := .opcodeOnly }

/-- Reads a register of `len` bytes; no register has fewer than one or more than three. -/
def readRegister (opcode : UInt8) (len : Nat) : Command :=
  { opcode
    format :=
      if len ≤ 1 then .readRegister8 else if len = 2 then .readRegister16 else .readRegister24 }

/-- Writes one byte of a register value, or two if `len` is at least two. -/
def writeRegister (opcode : UInt8) (value : UInt16) (len : Nat) : Command :=
  { opcode
    format := if 2 ≤ len then .writeRegister16 else .writeRegister8
    writeData := value.toUInt32 }

/-- Erases the unit at an address. -/
def erase (opcode : UInt8) (addr : Nat) : Command :=
  { opcode, format := .addressOnly, address := maskAddress addr }

/-- Reads `len` bytes at an address into the read FIFO. -/
def read (opcode : UInt8) (addr len dummyCycles : Nat) : Command :=
  { opcode
    format := if dummyCycles = 0 then .addressReadData else .addressDummyReadData
    address := maskAddress addr
    dataLength := len
    dummyCycles }

/-- Programs `len` bytes from the write FIFO at an address. -/
def program (opcode : UInt8) (addr len : Nat) : Command :=
  { opcode, format := .addressProgramData, address := maskAddress addr, dataLength := len }

/-- The command in another bus mode. -/
def withMode (command : Command) (mode : BusMode) : Command := { command with mode }

/-- The completed command with the register value that it read. -/
def withReadData (command : Command) (value : UInt32) : Command :=
  { command with readData := value }

/-- The instruction that the command carries. -/
def instruction (command : Command) : Instruction := .ofOpcode command.opcode

end Command

end CardReader.Flash
