import CardReader.Ccid.Card

/-!
# A virtual card

A card with a given answer to reset, which remembers the APDUs it was sent and answers them as a
responder says.
-/

namespace CardReader.Ccid

/-- Answers an APDU, given all those before it. -/
abbrev Responder := (earlier : List (List UInt8)) → (apdu : List UInt8) →
  Except CardError (List UInt8)

namespace Responder

/-- Answers every APDU with success. -/
def success : Responder := fun _ _ => .ok [0x90, 0x00]

/-- The answer to APDUs that start in a certain way. -/
structure Rule where
  /-- How the APDU has to start. -/
  start : List UInt8
  /-- The answer. -/
  answer : Except CardError (List UInt8)

/-- Answers by the first rule that fits, and refuses the instruction if none does. -/
def ofRules (rules : List Rule) : Responder := fun _ apdu =>
  match rules.find? fun rule => rule.start.isPrefixOf apdu with
  | some rule => rule.answer
  | none => .ok [0x6D, 0x00]

end Responder

/-- A card with a responder. -/
structure VirtualCard where
  /-- Whether the card is inserted. -/
  present : Bool := true
  /-- Whether the card is active. -/
  powered : Bool := false
  /-- Whether the clock of the card is running. -/
  running : Bool := true
  /-- The answer to reset. -/
  atr : List UInt8 := [0x3B, 0x02, 0x14, 0x50]
  /-- What answers APDUs. -/
  responder : Responder := .success
  /-- The APDUs received so far, oldest first. -/
  apdus : List (List UInt8) := []

/-- A buffer that starts with given bytes, if they fit. -/
def fill? (room : Nat) (bytes : List UInt8) : Option (Filled room) :=
  if _fits : bytes.length ≤ room then
    some ⟨bytes.length, ⟨(bytes ++ List.replicate (room - bytes.length) 0).toArray, by simp; omega⟩⟩
  else none

namespace VirtualCard

/-- Inserts or removes the card; a removed card is not active. -/
def setPresent (card : VirtualCard) (present : Bool) : VirtualCard :=
  { card with present, powered := card.powered && present }

/-- Activates the card. -/
def activate (room : Nat) (card : VirtualCard) : Except CardError (Filled room) × VirtualCard :=
  if !card.present then (.error .mute, card)
  else
    match fill? room card.atr with
    | none => (.error .overrun, card)
    | some filled => (.ok filled, { card with powered := true, running := true })

/-- Takes an APDU and answers it, unless the card is inactive or its clock stands still. -/
def receive (apdu : List UInt8) (room : Nat) (card : VirtualCard) :
    Except CardError (Filled room) × VirtualCard :=
  if !card.powered || !card.running then (.error .mute, card)
  else
    let answer := card.responder card.apdus apdu
    let card := { card with apdus := card.apdus ++ [apdu] }
    match answer with
    | .error error => (.error error, card)
    | .ok reply =>
      match fill? room reply with
      | none => (.error .overrun, card)
      | some filled => (.ok filled, card)

instance : SmartCard VirtualCard where
  present := VirtualCard.present
  powerOn _ := activate
  powerOff card := { card with powered := false }
  transmit := receive
  setClock running card := (.ok (), { card with running })

end VirtualCard

end CardReader.Ccid
