import CardReader.Ccid.VirtualCard

/-!
# A card with a fixed clock

The virtual card behind an interface that offers no more than it must: a request to stop the clock
or to change the rates is granted without reaching the card.
-/

namespace CardReader.Ccid

/-- A virtual card whose clock and rates cannot be reached. -/
structure BasicCard where
  /-- The card. -/
  card : VirtualCard

namespace BasicCard

instance : SmartCard BasicCard where
  present basic := SmartCard.present basic.card
  powerOn voltage room basic :=
    match SmartCard.powerOn voltage room basic.card with
    | (outcome, card) => (outcome, ⟨card⟩)
  powerOff basic := ⟨SmartCard.powerOff basic.card⟩
  transmit apdu room basic :=
    match SmartCard.transmit apdu room basic.card with
    | (outcome, card) => (outcome, ⟨card⟩)

end BasicCard

end CardReader.Ccid
