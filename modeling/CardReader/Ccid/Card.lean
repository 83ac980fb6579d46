import CardReader.Ccid.Code

/-!
# The card

What the reader needs of a smart card, as operations on a state of any type.  Activating the card
and sending it an APDU fill a buffer of a given room and answer with a length, which an unruly
card may well give larger than the room.
-/

namespace CardReader.Ccid

/-- How a card can fail. -/
inductive CardError where
  /-- The card does not answer. -/
  | mute
  /-- The parity was wrong. -/
  | parity
  /-- The answer does not fit the buffer. -/
  | overrun
  /-- The interface failed. -/
  | hardware
  /-- The card does not speak the protocol. -/
  | protocolNotSupported
  deriving DecidableEq

namespace CardError

/-- Every failure. -/
def all : List CardError := [mute, parity, overrun, hardware, protocolNotSupported]

/-- The error with which the reader reports the failure. -/
def slotError : CardError → SlotError
  | mute => .iccMute
  | parity => .parity
  | overrun => .overrun
  | hardware => .hardware
  | protocolNotSupported => .protocolNotSupported

end CardError

/-- A supply voltage. -/
inductive Voltage where
  /-- Whatever the reader chooses. -/
  | automatic
  /-- 5 V. -/
  | five
  /-- 3 V. -/
  | three
  /-- 1.8 V. -/
  | oneEight
  deriving DecidableEq

/-- The voltage that a host selects by a byte. -/
def Voltage.ofSelector? (selector : UInt8) : Option Voltage :=
  if selector = 0 then some .automatic
  else if selector = 1 then some .five
  else if selector = 2 then some .three
  else if selector = 3 then some .oneEight
  else none

/-- What came into a buffer: the length that the card reports and the whole buffer. -/
structure Filled (room : Nat) where
  /-- The length that the card reports. -/
  length : Nat
  /-- The buffer, with zeros where the card put nothing. -/
  buffer : Vector UInt8 room

/-- The bytes that the card put into the buffer; a length beyond its room counts as all of it. -/
def Filled.bytes {room : Nat} (filled : Filled room) : List UInt8 :=
  filled.buffer.toList.take filled.length

/-- A card whose state is of type `κ`. -/
class SmartCard (κ : Type) where
  /-- Whether the card is inserted. -/
  present : κ → Bool
  /-- Activates the card, which puts its answer to reset into a buffer. -/
  powerOn : Voltage → (room : Nat) → κ → Except CardError (Filled room) × κ
  /-- Deactivates the card. -/
  powerOff : κ → κ
  /-- Sends an APDU, whose answer the card puts into a buffer. -/
  transmit : List UInt8 → (room : Nat) → κ → Except CardError (Filled room) × κ
  /-- Stops or restarts the clock of the card. -/
  setClock : Bool → κ → Except CardError Unit × κ := fun _ card => (.ok (), card)
  /-- Asks for a clock frequency and a data rate; answers with those that apply. -/
  setRate : UInt32 → UInt32 → κ → Except CardError (UInt32 × UInt32) × κ :=
    fun clock rate card => (.ok (clock, rate), card)

end CardReader.Ccid
