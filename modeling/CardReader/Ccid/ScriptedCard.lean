import CardReader.Ccid.VirtualCard

/-!
# An unruly card

The virtual card behind an interface that follows a script: calls fail before they reach the card,
or report lengths of their own.
-/

namespace CardReader.Ccid

/-- What an unruly card does instead of what it should. -/
structure CardScript where
  /-- How activating the card fails. -/
  powerOnFailure : Option CardError := none
  /-- The length reported for an answer to reset. -/
  atrLength : Option Nat := none
  /-- The length reported for the answer to an APDU. -/
  replyLength : Option Nat := none
  /-- How stopping or restarting the clock fails. -/
  clockFailure : Option CardError := none
  /-- How asking for other rates fails. -/
  rateFailure : Option CardError := none
  /-- The clock frequency and data rate that apply whatever is asked for. -/
  rates : Option (UInt32 × UInt32) := none

/-- A virtual card that follows a script. -/
structure ScriptedCard where
  /-- The card. -/
  card : VirtualCard
  /-- The script. -/
  script : CardScript := {}

namespace ScriptedCard

/-- What a call filled in, with the length that the script reports for it. -/
def report {room : Nat} (length : Option Nat) (filled : Filled room) : Filled room :=
  { filled with length := length.getD filled.length }

/-- Activates the card. -/
def powerOn (voltage : Voltage) (room : Nat) (scripted : ScriptedCard) :
    Except CardError (Filled room) × ScriptedCard :=
  match scripted with
  | ⟨card, script⟩ =>
    match script.powerOnFailure with
    | some error => (.error error, ⟨card, script⟩)
    | none =>
      match SmartCard.powerOn voltage room card with
      | (outcome, card) => (outcome.map (report script.atrLength), ⟨card, script⟩)

/-- Sends an APDU to the card. -/
def transmit (apdu : List UInt8) (room : Nat) (scripted : ScriptedCard) :
    Except CardError (Filled room) × ScriptedCard :=
  match scripted with
  | ⟨card, script⟩ =>
    match SmartCard.transmit apdu room card with
    | (outcome, card) => (outcome.map (report script.replyLength), ⟨card, script⟩)

/-- Stops or restarts the clock of the card. -/
def setClock (running : Bool) (scripted : ScriptedCard) : Except CardError Unit × ScriptedCard :=
  match scripted with
  | ⟨card, script⟩ =>
    match script.clockFailure with
    | some error => (.error error, ⟨card, script⟩)
    | none =>
      match SmartCard.setClock running card with
      | (outcome, card) => (outcome, ⟨card, script⟩)

/-- Asks for a clock frequency and a data rate. -/
def setRate (clock rate : UInt32) (scripted : ScriptedCard) :
    Except CardError (UInt32 × UInt32) × ScriptedCard :=
  match scripted.script.rateFailure with
  | some error => (.error error, scripted)
  | none => (.ok (scripted.script.rates.getD (clock, rate)), scripted)

instance : SmartCard ScriptedCard where
  present scripted := SmartCard.present scripted.card
  powerOn := powerOn
  powerOff scripted := { scripted with card := SmartCard.powerOff scripted.card }
  transmit := transmit
  setClock := setClock
  setRate := setRate

end ScriptedCard

end CardReader.Ccid
