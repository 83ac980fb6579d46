import CardReader.Ccid.Card
import CardReader.Ccid.Message
import CardReader.Ccid.Params
import CardReader.Ccid.Response

/-!
# The slot and its commands

The reader's side of the slot, and the command table.  Every complete command is handed to
`Slot.dispatch`, which carries it out on the slot and the card and builds exactly one response for
it.  A command that cannot be carried out is answered with the reason; its checks come before
anything it changes.
-/

namespace CardReader.Ccid

/-- What the reader knows of the slot. -/
structure Slot where
  /-- Whether the card has been activated. -/
  powered : Bool := false
  /-- Whether the clock of the card has been stopped. -/
  clockStopped : Bool := false
  /-- The protocol and its parameters. -/
  params : ProtocolParams := .default
  /-- The clock of the card in kilohertz. -/
  clock : UInt32 := defaultClock
  /-- The data rate in bits per second. -/
  rate : UInt32 := defaultRate
  deriving DecidableEq

namespace Slot

variable {κ : Type} [SmartCard κ]

/-- The state of the card as responses give it. -/
def iccStatus (slot : Slot) (card : κ) : UInt8 :=
  if !SmartCard.present card then iccAbsent
  else if slot.powered then iccActive
  else iccInactive

/-- The state of the clock as slot status responses give it. -/
def clockStatus (slot : Slot) : UInt8 := if slot.powered && slot.clockStopped then 0x01 else 0x00

/-- The slot once its card is removed or deactivated. -/
def deactivate (slot : Slot) : Slot := { slot with powered := false, clockStopped := false }

/-! ## Checks -/

/-- The command is for the slot of this reader. -/
def checkSlot (message : Message) : Except SlotError Unit :=
  if slotCount ≤ message.slot.toNat then .error .badSlot else .ok ()

/-- The header announces no payload. -/
def checkNoData (message : Message) : Except SlotError Unit :=
  if message.declared ≠ 0 then .error .badLength else .ok ()

/-- The payload is the one that the header announces. -/
def checkData (message : Message) : Except SlotError Unit :=
  if maxPayload < message.declared ∨ message.lengthConsistent = false then .error .badDataLength
  else .ok ()

/-- The three reserved bytes are zero. -/
def checkReserved3 (message : Message) : Except SlotError Unit :=
  if message.params ≠ ⟨0, 0, 0⟩ then .error .badReserved3 else .ok ()

/-- The last two of the three bytes are zero, or else the command fails with `error`. -/
def checkLastTwo (message : Message) (error : SlotError) : Except SlotError Unit :=
  if message.params.second ≠ 0 ∨ message.params.third ≠ 0 then .error error else .ok ()

/-- A card is present. -/
def checkPresent (card : κ) : Except SlotError Unit :=
  if !SmartCard.present card then .error .iccMute else .ok ()

/-- The card is active. -/
def checkActive (slot : Slot) : Except SlotError Unit :=
  if !slot.powered then .error .iccMute else .ok ()

/-! ## Commands

Each command answers with its outcome and with the slot and the card as it leaves them. -/

/-- What a command leads to. -/
abbrev Handled (κ α : Type) := Except SlotError α × Slot × κ

/-- What a supply voltage has to be checked for, and the voltage. -/
def selectVoltage (message : Message) : Except SlotError Voltage := do
  checkSlot message
  checkNoData message
  match Voltage.ofSelector? message.params.first with
  | none => throw .badPowerSelect
  | some voltage =>
    checkLastTwo message .badReserved2
    return voltage

/-- Activates the card and answers with its answer to reset. -/
def powerOn (message : Message) (slot : Slot) (card : κ) : Handled κ (List UInt8) :=
  match (do let voltage ← selectVoltage message; checkPresent card; return voltage) with
  | .error error => (.error error, slot, card)
  | .ok voltage =>
    match SmartCard.powerOn voltage maxAtr card with
    | (.error error, card) => (.error error.slotError, slot.deactivate, card)
    | (.ok filled, card) =>
      (.ok filled.bytes, { slot.deactivate with powered := true, params := .default }, card)

/-- Deactivates the card. -/
def powerOff (message : Message) (slot : Slot) (card : κ) : Handled κ Unit :=
  match (do checkSlot message; checkReserved3 message) with
  | .error error => (.error error, slot, card)
  | .ok () => (.ok (), slot.deactivate, SmartCard.powerOff card)

/-- Reports whether a card is present. -/
def getSlotStatus (message : Message) (card : κ) : Except SlotError Unit := do
  checkSlot message
  checkReserved3 message
  checkPresent card

/-- Exchanges an APDU with the card. -/
def xfrBlock (message : Message) (slot : Slot) (card : κ) : Handled κ (List UInt8) :=
  match (do
    checkSlot message
    checkPresent card
    checkActive slot
    checkData message
    checkLastTwo message .badLevel) with
  | .error error => (.error error, slot, card)
  | .ok () =>
    match SmartCard.transmit message.payload maxPayload card with
    | (.error error, card) => (.error error.slotError, slot, card)
    | (.ok filled, card) => (.ok filled.bytes, slot, card)

/-- What a command without payload about the parameters has to be checked for. -/
def getParameters (message : Message) (card : κ) : Except SlotError Unit := do
  checkSlot message
  checkNoData message
  checkReserved3 message
  checkPresent card

/-- Restores the default parameters. -/
def resetParameters (message : Message) (slot : Slot) (card : κ) : Handled κ Unit :=
  match getParameters message card with
  | .error error => (.error error, slot, card)
  | .ok () => (.ok (), { slot with params := .default }, card)

/-- Changes the parameters to those that the payload holds. -/
def setParameters (message : Message) (slot : Slot) (card : κ) : Handled κ Unit :=
  match (do
    checkSlot message
    checkPresent card
    checkLastTwo message .badReserved2
    checkData message
    ProtocolParams.parse message.params.first message.payload) with
  | .error error => (.error error, slot, card)
  | .ok params => (.ok (), { slot with params }, card)

/-- The clock command of a message: whether the clock is to run. -/
def clockCommand (message : Message) : Except SlotError Bool :=
  if message.params.first = 0x00 then .ok true
  else if message.params.first = 0x01 then .ok false
  else .error .badClockCommand

/-- Stops or restarts the clock of the card. -/
def iccClock (message : Message) (slot : Slot) (card : κ) : Handled κ Unit :=
  match (do
    checkSlot message
    checkPresent card
    checkLastTwo message .badReserved2
    let running ← clockCommand message
    checkActive slot
    return running) with
  | .error error => (.error error, slot, card)
  | .ok running =>
    match SmartCard.setClock running card with
    | (.error error, card) => (.error error.slotError, slot, card)
    | (.ok (), card) => (.ok (), { slot with clockStopped := !running }, card)

/-- Acknowledges an abort. -/
def abort (message : Message) : Except SlotError Unit := do
  checkSlot message
  checkReserved3 message

/-- The clock frequency and the data rate that a payload of eight bytes asks for. -/
def requestedRate (payload : List UInt8) : Except SlotError (UInt32 × UInt32) :=
  match payload with
  | [c0, c1, c2, c3, r0, r1, r2, r3] =>
    .ok (UInt32.ofNat (number32 c0 c1 c2 c3), UInt32.ofNat (number32 r0 r1 r2 r3))
  | _ => .error .badDataLength

/-- Changes the clock frequency and the data rate. -/
def setDataRate (message : Message) (slot : Slot) (card : κ) : Handled κ Unit :=
  match (do
    checkSlot message
    checkPresent card
    checkReserved3 message
    checkData message
    requestedRate message.payload) with
  | .error error => (.error error, slot, card)
  | .ok (clock, rate) =>
    match SmartCard.setRate clock rate card with
    | (.error error, card) => (.error error.slotError, slot, card)
    | (.ok (clock, rate), card) => (.ok (), { slot with clock, rate }, card)

/-- Refuses a command that the reader does not support. -/
def notSupported (message : Message) : Except SlotError Unit := do
  checkSlot message
  throw .notSupported

/-! ## The command table -/

/-- The response with data from the card. -/
def answerData (echo : Echo) (handled : Handled κ (List UInt8)) : Response × Slot × κ :=
  let (outcome, slot, card) := handled
  let data := match outcome with
    | .ok data => data
    | .error _ => []
  (.dataBlock echo (slot.iccStatus card) (outcomeCode outcome) data, slot, card)

/-- The response with the status of the slot. -/
def answerStatus (echo : Echo) (handled : Handled κ Unit) : Response × Slot × κ :=
  let (outcome, slot, card) := handled
  (.slotStatus echo (slot.iccStatus card) (outcomeCode outcome) slot.clockStatus, slot, card)

/-- The response with the parameters. -/
def answerParameters (echo : Echo) (handled : Handled κ Unit) : Response × Slot × κ :=
  let (outcome, slot, card) := handled
  (.parameters echo (slot.iccStatus card) (outcomeCode outcome) slot.params.protocol
    slot.params.bytes, slot, card)

/-- The response with the clock frequency and the data rate. -/
def answerRate (echo : Echo) (handled : Handled κ Unit) : Response × Slot × κ :=
  let (outcome, slot, card) := handled
  (.dataRate echo (slot.iccStatus card) (outcomeCode outcome) slot.clock slot.rate, slot, card)

/-- The response to a vendor's command. -/
def answerEscape (echo : Echo) (handled : Handled κ Unit) : Response × Slot × κ :=
  let (outcome, slot, card) := handled
  (.escape echo (slot.iccStatus card) (outcomeCode outcome), slot, card)

/-- Carries out a command on a slot that knows whether its card is there. -/
def handle (message : Message) (slot : Slot) (card : κ) : Response × Slot × κ :=
  let echo : Echo := ⟨message.slot, message.seq⟩
  match message.command? with
  | some .powerOn => answerData echo (powerOn message slot card)
  | some .powerOff => answerStatus echo (powerOff message slot card)
  | some .getSlotStatus => answerStatus echo (getSlotStatus message card, slot, card)
  | some .xfrBlock => answerData echo (xfrBlock message slot card)
  | some .getParameters => answerParameters echo (getParameters message card, slot, card)
  | some .resetParameters => answerParameters echo (resetParameters message slot card)
  | some .setParameters => answerParameters echo (setParameters message slot card)
  | some .escape => answerEscape echo (notSupported message, slot, card)
  | some .iccClock => answerStatus echo (iccClock message slot card)
  | some .abort => answerStatus echo (abort message, slot, card)
  | some .t0Apdu | some .mechanical => answerStatus echo (notSupported message, slot, card)
  | some .setDataRate => answerRate echo (setDataRate message slot card)
  | some .secure => answerData echo ((notSupported message).map fun _ => [], slot, card)
  | none => answerStatus echo (.error .notSupported, slot, card)

/-- Carries out a command and answers it.  A slot whose card has gone is no longer active. -/
def dispatch (message : Message) (slot : Slot) (card : κ) : Response × Slot × κ :=
  handle message (if SmartCard.present card then slot else slot.deactivate) card

end Slot

end CardReader.Ccid
