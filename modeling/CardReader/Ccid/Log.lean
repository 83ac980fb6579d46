import CardReader.Ccid.Reassembler
import CardReader.Ccid.VirtualCard
import CardReader.Text.LogText

/-!
# The bulk endpoints in a log

The state of the bulk endpoints in one line: what they wait for, the slot, the card and the held
response.  The command that is coming in is left out.
-/

namespace CardReader.Ccid

open LogText

/-- The name of a state. -/
def BulkState.name : BulkState → String
  | idle => "Idle"
  | receivingData => "ReceivingData"
  | lengthError => "LengthError"

/-- The parameters in a line of a log. -/
def ProtocolParams.describe (params : ProtocolParams) : String :=
  let tag := match params with
    | t0 .. => "T0"
    | t1 .. => "T1"
  tagged tag (LogText.bytes params.bytes)

/-- The slot in a line of a log. -/
def Slot.describe (slot : Slot) : String :=
  record "Slot"
    [("powered", truth slot.powered), ("clock_stopped", truth slot.clockStopped),
      ("params", slot.params.describe), ("clock_khz", toString slot.clock.toNat),
      ("rate_bps", toString slot.rate.toNat)]

/-- The card in a line of a log. -/
def VirtualCard.describe (card : VirtualCard) : String :=
  record "SimCard"
    [("present", truth card.present), ("powered", truth card.powered),
      ("atr", LogText.bytes card.atr), ("apdus", toString card.apdus.length)]

/-- The endpoints in a line of a log, given how to show the card. -/
def Reassembler.describe {κ : Type} (describeCard : κ → String) (r : Reassembler κ) : String :=
  record "CcidBulkReassembler"
    [("state", r.state.name), ("slot", r.slot.describe), ("card", describeCard r.card),
      ("response", optional (r.response.map Response.describe))]

end CardReader.Ccid
