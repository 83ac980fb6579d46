/-!
# Codes of the CCID class

The byte values of the CCID specification that the reader and its host exchange: message types,
status bits, and the error codes with which a failed command is answered, together with the sizes
that the reader works with.
-/

namespace CardReader.Ccid

/-! ## Sizes -/

/-- Bytes in a full bulk packet. -/
def packetSize : Nat := 64

/-- Bytes in a full interrupt packet. -/
def interruptPacketSize : Nat := 8

/-- Bytes in the header of every command and response. -/
def headerSize : Nat := 10

/-- The largest payload of a command. -/
def maxPayload : Nat := 261

/-- The largest message, header included. -/
def maxMessage : Nat := headerSize + maxPayload

/-- Slots of the reader. -/
def slotCount : Nat := 1

/-- The longest answer to reset that a card may give. -/
def maxAtr : Nat := 33

/-! ## Status -/

/-- A card is present and active. -/
def iccActive : UInt8 := 0x00
/-- A card is present but not active. -/
def iccInactive : UInt8 := 0x01
/-- No card is present. -/
def iccAbsent : UInt8 := 0x02
/-- The command failed. -/
def commandFailed : UInt8 := 0x40

/-! ## Defaults -/

/-- The card clock that the reader starts with, in kilohertz. -/
def defaultClock : UInt32 := 3580

/-- The data rate that the reader starts with, in bits per second. -/
def defaultRate : UInt32 := 9600

/-! ## Commands -/

/-- The commands that a host can send. -/
inductive CommandType where
  /-- Activate the card and return its answer to reset. -/
  | powerOn
  /-- Deactivate the card. -/
  | powerOff
  /-- Report the slot status. -/
  | getSlotStatus
  /-- Exchange an APDU with the card. -/
  | xfrBlock
  /-- Report the protocol parameters. -/
  | getParameters
  /-- Restore the default protocol parameters. -/
  | resetParameters
  /-- Change the protocol parameters. -/
  | setParameters
  /-- A vendor's command. -/
  | escape
  /-- Stop or restart the card clock. -/
  | iccClock
  /-- Change how APDUs are exchanged. -/
  | t0Apdu
  /-- Enter or change a PIN. -/
  | secure
  /-- Move the mechanics of the slot. -/
  | mechanical
  /-- Abort the command with the same slot and number. -/
  | abort
  /-- Change the clock frequency and the data rate. -/
  | setDataRate
  deriving DecidableEq

namespace CommandType

/-- Every command. -/
def all : List CommandType :=
  [powerOn, powerOff, getSlotStatus, xfrBlock, getParameters, resetParameters, setParameters,
    escape, iccClock, t0Apdu, secure, mechanical, abort, setDataRate]

/-- The message type of a command. -/
def code : CommandType → UInt8
  | powerOn => 0x62
  | powerOff => 0x63
  | getSlotStatus => 0x65
  | xfrBlock => 0x6F
  | getParameters => 0x6C
  | resetParameters => 0x6D
  | setParameters => 0x61
  | escape => 0x6B
  | iccClock => 0x6E
  | t0Apdu => 0x6A
  | secure => 0x69
  | mechanical => 0x71
  | abort => 0x72
  | setDataRate => 0x73

/-- The command with a given message type. -/
def ofCode? (code : UInt8) : Option CommandType := all.find? fun command => command.code == code

end CommandType

/-! ## Responses -/

/-- The families of responses. -/
inductive ResponseType where
  /-- Data from the card. -/
  | dataBlock
  /-- The status of the slot. -/
  | slotStatus
  /-- The protocol parameters. -/
  | parameters
  /-- The answer to a vendor's command. -/
  | escape
  /-- The clock frequency and the data rate. -/
  | dataRate
  deriving DecidableEq

/-- The message type of a response. -/
def ResponseType.code : ResponseType → UInt8
  | dataBlock => 0x80
  | slotStatus => 0x81
  | parameters => 0x82
  | escape => 0x83
  | dataRate => 0x84

/-- The message type of a slot change notification. -/
def notifySlotChange : UInt8 := 0x50

/-! ## Errors -/

/-- Why a command fails.  A code below 0x80 is the offset of the header field at fault. -/
inductive SlotError where
  /-- The command is not supported. -/
  | notSupported
  /-- The length field must be zero. -/
  | badLength
  /-- There is no such slot. -/
  | badSlot
  /-- There is no such voltage. -/
  | badPowerSelect
  /-- There is no such protocol. -/
  | badProtocol
  /-- There is no such clock command. -/
  | badClockCommand
  /-- The three reserved bytes are not zero. -/
  | badReserved3
  /-- The last two of the three bytes are not zero. -/
  | badReserved2
  /-- The level parameter is not zero. -/
  | badLevel
  /-- The length field does not match the data received. -/
  | badDataLength
  /-- The clock rate conversion or baud rate adjustment index is reserved. -/
  | badFiDi
  /-- The checksum type or convention is not allowed. -/
  | badChecksum
  /-- The clock stop support is not allowed. -/
  | badClockStop
  /-- The size of the information field is not allowed. -/
  | badIfsc
  /-- The node address is not zero. -/
  | badNad
  /-- The card does not answer. -/
  | iccMute
  /-- The parity was wrong in a transfer. -/
  | parity
  /-- The buffer was too small for a transfer. -/
  | overrun
  /-- The hardware failed. -/
  | hardware
  /-- The card does not speak the protocol. -/
  | protocolNotSupported
  deriving DecidableEq

/-- The code that the response carries. -/
def SlotError.code : SlotError → UInt8
  | notSupported => 0x00
  | badLength => 0x01
  | badSlot => 0x05
  | badPowerSelect | badProtocol | badClockCommand | badReserved3 => 0x07
  | badReserved2 | badLevel | badDataLength => 0x08
  | badFiDi => 0x0A
  | badChecksum => 0x0B
  | badClockStop => 0x0E
  | badIfsc => 0x0F
  | badNad => 0x10
  | iccMute => 0xFE
  | parity => 0xFD
  | overrun => 0xFC
  | hardware => 0xFB
  | protocolNotSupported => 0xF6

/-- The code with which a command that did not fail enters a response.  It is never sent. -/
def noError : UInt8 := 0x81

/-- The code with which the outcome of a command enters a response. -/
def outcomeCode {α : Type} : Except SlotError α → UInt8
  | .ok _ => noError
  | .error error => error.code

end CardReader.Ccid
