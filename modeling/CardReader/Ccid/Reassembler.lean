import CardReader.Ccid.Slot

/-!
# The bulk endpoints

A host splits each command into packets of at most 64 bytes.  A shorter packet ends the command,
and so does a full one that brings the announced length.  The complete command is carried out, and
its response is held until the host has taken it; meanwhile packets are ignored.  A command whose
length cannot be right is rejected with a response of its own, and the packet after it is
discarded.
-/

namespace CardReader.Ccid

/-- What the endpoint waits for. -/
inductive BulkState where
  /-- The first packet of a command. -/
  | idle
  /-- The rest of a command. -/
  | receivingData
  /-- The packet after a rejected one, which will be discarded. -/
  | lengthError
  deriving DecidableEq

/-- What became of a packet. -/
inductive PacketOutcome where
  /-- It was dropped and changed nothing. -/
  | ignored
  /-- It was kept, and the command is not complete. -/
  | needMore
  /-- It completed a command of this message type, which has been carried out. -/
  | dispatched (type : UInt8)
  /-- Its command was rejected before it could be carried out. -/
  | rejected
  /-- It was dropped, and the endpoint waits for a new command. -/
  | discarded
  deriving DecidableEq

/-- The pair of bulk endpoints of a reader with a card. -/
structure Reassembler (κ : Type) where
  /-- What the endpoint waits for. -/
  state : BulkState := .idle
  /-- The command as far as it has come in. -/
  message : Message := {}
  /-- The slot. -/
  slot : Slot := {}
  /-- The card. -/
  card : κ
  /-- The response that the host has not yet taken. -/
  response : Option Response := none

namespace Reassembler

variable {κ : Type} [SmartCard κ]

/-- A reassembler that drives a card. -/
def new (card : κ) : Reassembler κ := { card }

/-! ## Completing and rejecting -/

/-- Carries out the complete command. -/
def complete (r : Reassembler κ) : PacketOutcome × Reassembler κ :=
  let type := r.message.type
  let (response, slot, card) := Slot.dispatch r.message r.slot r.card
  (.dispatched type, { state := .idle, message := {}, slot, card, response := some response })

/-- Rejects the command for its length. -/
def reject (r : Reassembler κ) : PacketOutcome × Reassembler κ :=
  let echo : Echo := ⟨r.message.slot, r.message.seq⟩
  let response := Response.slotStatus echo (r.slot.iccStatus r.card) SlotError.badDataLength.code
    r.slot.clockStatus
  (.rejected, { r with state := .lengthError, message := {}, response := some response })

/-! ## Packets -/

/-- Takes the first packet of a command. -/
def first (r : Reassembler κ) (packet : List UInt8) : PacketOutcome × Reassembler κ :=
  match CommandHeader.parse? packet with
  | none => (.ignored, r)
  | some header =>
    let r := { r with message := .start header packet }
    if maxPayload < header.length then r.reject
    else if packet.length < packetSize then r.complete
    else if r.message.expected = r.message.received then r.complete
    else if r.message.expected < r.message.received then r.reject
    else (.needMore, { r with state := .receivingData })

/-- Takes a packet that goes on with a command. -/
def next (r : Reassembler κ) (packet : List UInt8) : PacketOutcome × Reassembler κ :=
  let total := r.message.received + packet.length
  if r.message.expected < total then r.reject
  else
    let r := { r with message := r.message.append packet }
    if packet.length < packetSize ∨ total = r.message.expected then r.complete
    else (.needMore, r)

/-- Takes a packet from the host. -/
def bulkOut (r : Reassembler κ) (packet : List UInt8) : PacketOutcome × Reassembler κ :=
  if packetSize < packet.length then (.ignored, r)
  else
    match r.state with
    | .lengthError => (.discarded, { r with state := .idle, message := {} })
    | .idle => if r.response.isSome then (.ignored, r) else r.first packet
    | .receivingData => if r.response.isSome then (.ignored, r) else r.next packet

/-- The host has taken the response. -/
def bulkInComplete (r : Reassembler κ) : Option Response × Reassembler κ :=
  (r.response, { r with response := none })

/-- The host gives up the command it was sending. -/
def abort (r : Reassembler κ) : Reassembler κ := { r with state := .idle, message := {} }

/-- The endpoints are torn down. -/
def deinit (r : Reassembler κ) : Reassembler κ := { r.abort with response := none }

end Reassembler

/-! ## Splitting a command into packets -/

/-- The packets of a message, whose last one is shorter than a full packet and may be empty. -/
def packets (message : List UInt8) : List (List UInt8) :=
  if packetSize ≤ message.length then
    message.take packetSize :: packets (message.drop packetSize)
  else [message]
termination_by message.length
decreasing_by
  rename_i full
  simp only [packetSize] at full
  simp only [List.length_drop, packetSize]
  omega

/-- The bytes of a command with a given payload. -/
def commandBytes (type slot seq : UInt8) (params : CommandParams) (payload : List UInt8) :
    List UInt8 :=
  CommandHeader.bytes { type, length := payload.length, slot, seq, params } ++ payload

end CardReader.Ccid
