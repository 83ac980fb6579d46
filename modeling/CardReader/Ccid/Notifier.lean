import CardReader.Ccid.Code

/-!
# Slot change notifications

A change of the slot is latched and reported by the next poll once the previous notification has
gone out.  Changes that come in between are reported as one, with the latest state.
-/

namespace CardReader.Ccid

/-- What the interrupt endpoint has to report. -/
structure Notifier where
  /-- Whether a card is present, as of the latest change. -/
  present : Bool
  /-- Whether a change is waiting to be reported. -/
  pending : Bool := true
  /-- Whether the previous notification has gone out. -/
  idle : Bool := true
  deriving DecidableEq

namespace Notifier

/-- The bit for a card that is present. -/
def presentBit : UInt8 := 0x01

/-- The bit for a state that has changed. -/
def changedBit : UInt8 := 0x02

/-- The state at the start, which counts as a change: the first poll reports it. -/
def start (present : Bool) : Notifier := { present }

/-- A card has been inserted or removed. -/
def change (notifier : Notifier) (present : Bool) : Notifier :=
  { notifier with present, pending := true }

/-- The previous notification has gone out. -/
def complete (notifier : Notifier) : Notifier := { notifier with idle := true }

/-- The notification that is due, if there is one. -/
def poll (notifier : Notifier) : Option (List UInt8) × Notifier :=
  if notifier.pending && notifier.idle then
    (some [notifySlotChange, changedBit ||| (if notifier.present then presentBit else 0)],
      { notifier with pending := false, idle := false })
  else (none, notifier)

end Notifier

end CardReader.Ccid
