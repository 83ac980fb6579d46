import CardReader.Proofs.Ccid.Packets

/-!
# Packets one by one

What the endpoints make of one packet depends on what they wait for, on whether a response is held
and on how much has come in.  A packet is dropped without a trace, dropped after a rejected
command, or taken as a piece of a command; one equation says what follows in the last case, and
everything about runs of packets is derived from it.

What is proved here:

* `bulkOut_of_extends` — what follows from one piece of a command;
* `fate_iff` — all that one packet can do, and when;
* `feed_complete` and `feed_reject` — packets after a command has been answered do nothing any
  more;
* `Slot.dispatch_slot` and `Slot.dispatch_seq` — a command that is carried out is answered to its
  own slot and number.
-/

namespace CardReader.Ccid

/-! ## Responses -/

namespace Slot

variable {κ : Type} [SmartCard κ]

theorem handle_echo (message : Message) (slot : Slot) (card : κ) :
    (handle message slot card).1.slot = message.slot ∧
      (handle message slot card).1.seq = message.seq := by
  unfold handle
  simp only
  split <;> exact ⟨rfl, rfl⟩

theorem dispatch_slot (message : Message) (slot : Slot) (card : κ) :
    (dispatch message slot card).1.slot = message.slot :=
  (handle_echo _ _ _).1

theorem dispatch_seq (message : Message) (slot : Slot) (card : κ) :
    (dispatch message slot card).1.seq = message.seq :=
  (handle_echo _ _ _).2

end Slot

/-! ## Messages -/

namespace Message

variable {message : Message} {packet : List UInt8}

@[simp] theorem received_append : (message.append packet).received =
    message.received + packet.length := rfl

@[simp] theorem expected_append : (message.append packet).expected = message.expected := rfl

@[simp] theorem slot_append : (message.append packet).slot = message.slot := rfl

@[simp] theorem seq_append : (message.append packet).seq = message.seq := rfl

variable {header : CommandHeader}

@[simp] theorem received_start : (start header packet).received = packet.length := rfl

@[simp] theorem expected_start : (start header packet).expected = header.length + headerSize := rfl

@[simp] theorem declared_start : (start header packet).declared = header.length := rfl

@[simp] theorem slot_start : (start header packet).slot = header.slot := rfl

@[simp] theorem seq_start : (start header packet).seq = header.seq := rfl

end Message

namespace Reassembler

variable {κ : Type} [SmartCard κ] {r : Reassembler κ} {packet : List UInt8} {message : Message}

/-! ## Answers -/

/-- The response to a command that is rejected for its length. -/
def refusal (slot : Slot) (card : κ) (message : Message) : Response :=
  Response.slotStatus ⟨message.slot, message.seq⟩ (slot.iccStatus card)
    SlotError.badDataLength.code slot.clockStatus

theorem reject_eq (r : Reassembler κ) : r.reject =
    (.rejected, { r with
      state := .lengthError, message := {}, response := some (refusal r.slot r.card r.message) }) :=
  rfl

theorem complete_eq (r : Reassembler κ) : r.complete =
    (.dispatched r.message.type,
      { state := .idle
        message := {}
        slot := (Slot.dispatch r.message r.slot r.card).2.1
        card := (Slot.dispatch r.message r.slot r.card).2.2
        response := some (Slot.dispatch r.message r.slot r.card).1 }) :=
  rfl

/-! ## One packet -/

/-- The packet is read as the header of a command. -/
def readsHeader (r : Reassembler κ) (packet : List UInt8) : Bool :=
  decide (r.state = .idle ∧ r.response.isNone ∧ packet.length ≤ packetSize ∧
    headerSize ≤ packet.length)

omit [SmartCard κ] in
theorem readsHeader_of_not_idle (h : r.state ≠ .idle) : r.readsHeader packet = false :=
  decide_eq_false fun hreads => h hreads.1

omit [SmartCard κ] in
theorem readsHeader_of_receiving (h : r.state = .receivingData) : r.readsHeader packet = false :=
  readsHeader_of_not_idle (by rw [h]; decide)

omit [SmartCard κ] in
theorem readsHeader_of_pending (h : r.response.isSome) : r.readsHeader packet = false :=
  decide_eq_false fun hreads => by simp [Option.isNone_iff_eq_none.1 hreads.2.1] at h

/-- The packet is a piece of a command, which is `message` once the packet has come in. -/
inductive Extends (r : Reassembler κ) (packet : List UInt8) : Message → Prop
  /-- It is the first piece. -/
  | first {header : CommandHeader} (state_eq : r.state = .idle) (free : r.response = none)
    (fits : packet.length ≤ packetSize) (read : CommandHeader.parse? packet = some header) :
    Extends r packet (.start header packet)
  /-- It goes on with the command that is coming in. -/
  | next (state_eq : r.state = .receivingData) (free : r.response = none)
    (fits : packet.length ≤ packetSize) :
    Extends r packet (r.message.append packet)

/-- The length of a command cannot be right.  A short first packet may bring more than its header
announces; the command is then carried out, and refused on the way. -/
def overlong (r : Reassembler κ) (packet : List UInt8) (message : Message) : Bool :=
  match r.state with
  | .idle => decide (maxPayload < message.declared ∨
      packet.length = packetSize ∧ message.expected < message.received)
  | _ => decide (message.expected < message.received)

omit [SmartCard κ] in
theorem overlong_of_idle (h : r.state = .idle) : r.overlong packet message ↔
    maxPayload < message.declared ∨
      packet.length = packetSize ∧ message.expected < message.received := by
  simp only [overlong, h, decide_eq_true_eq]

omit [SmartCard κ] in
theorem overlong_of_receiving (h : r.state = .receivingData) :
    r.overlong packet message ↔ message.expected < message.received := by
  simp only [overlong, h, decide_eq_true_eq]

omit [SmartCard κ] in
theorem Extends.fits (h : r.Extends packet message) : packet.length ≤ packetSize := by
  cases h <;> assumption

omit [SmartCard κ] in
theorem Extends.free (h : r.Extends packet message) : r.response = none := by
  cases h <;> assumption

/-- A piece of a command completes it, shows that it is too long, or waits for more. -/
theorem bulkOut_of_extends (h : r.Extends packet message) :
    r.bulkOut packet =
      if r.overlong packet message then reject { r with message }
      else if packet.length < packetSize ∨ message.received = message.expected then
        complete { r with message }
      else (.needMore, { r with state := .receivingData, message }) := by
  have hfits := Nat.not_lt.2 h.fits
  cases h with
  | @first header state_eq free fits read =>
    simp only [bulkOut, if_neg hfits, state_eq, free, Option.isSome_none, Bool.false_eq_true,
      if_false, first, read, overlong_of_idle state_eq, Message.declared_start]
    split
    · rename_i hdeclared
      rw [if_pos (.inl hdeclared)]
    rename_i hdeclared
    split
    · rename_i hshort
      rw [if_neg (by omega), if_pos (.inl hshort)]
    rename_i hfull
    split
    · rename_i hequal
      rw [if_neg (by omega), if_pos (.inr hequal.symm)]
    split
    · rw [if_pos (by omega)]
    · rw [if_neg (by omega), if_neg (by omega)]
  | next state_eq free fits =>
    simp only [bulkOut, if_neg hfits, state_eq, free, Option.isSome_none, Bool.false_eq_true,
      if_false, next, overlong_of_receiving state_eq, Message.received_append,
      Message.expected_append]
    rfl

theorem bulkOut_of_pending (hpending : r.response.isSome) (hstate : r.state ≠ .lengthError) :
    r.bulkOut packet = (.ignored, r) := by
  unfold bulkOut
  split
  · rfl
  split
  · rename_i herror
    exact absurd herror hstate
  · rfl
  · rfl

theorem bulkOut_of_lengthError (hstate : r.state = .lengthError)
    (hfits : packet.length ≤ packetSize) :
    r.bulkOut packet = (.discarded, { r with state := .idle, message := {} }) := by
  simp only [bulkOut, if_neg (Nat.not_lt.2 hfits), hstate]

/-- What can become of a packet, and of the endpoints with it. -/
inductive Fate (r : Reassembler κ) (packet : List UInt8) : PacketOutcome × Reassembler κ → Prop
  /-- It is longer than a packet can be. -/
  | oversized (long : packetSize < packet.length) : Fate r packet (.ignored, r)
  /-- The host has not taken the response to the last command. -/
  | early (state_ne : r.state ≠ .lengthError) (pending : r.response.isSome) :
    Fate r packet (.ignored, r)
  /-- It should hold a header, and is too short for one. -/
  | runt (state_eq : r.state = .idle) (free : r.response = none) (fits : packet.length ≤ packetSize)
    (unread : CommandHeader.parse? packet = none) : Fate r packet (.ignored, r)
  /-- It comes after a command that was rejected. -/
  | discarded (state_eq : r.state = .lengthError) (fits : packet.length ≤ packetSize) :
    Fate r packet (.discarded, { r with state := .idle, message := {} })
  /-- It shows that its command is too long. -/
  | rejected {message : Message} (piece : r.Extends packet message)
    (wrong : r.overlong packet message) : Fate r packet (reject { r with message })
  /-- It completes its command. -/
  | dispatched {message : Message} (piece : r.Extends packet message)
    (right : ¬r.overlong packet message)
    (last : packet.length < packetSize ∨ message.received = message.expected) :
    Fate r packet (complete { r with message })
  /-- Its command needs more. -/
  | kept {message : Message} (piece : r.Extends packet message)
    (right : ¬r.overlong packet message) (full : packet.length = packetSize)
    (more : message.received < message.expected) :
    Fate r packet (.needMore, { r with state := .receivingData, message })

theorem bulkOut_of_fate {result : PacketOutcome × Reassembler κ} (h : r.Fate packet result) :
    r.bulkOut packet = result := by
  cases h with
  | oversized long => rw [bulkOut, if_pos long]
  | early state_ne pending => exact bulkOut_of_pending pending state_ne
  | runt state_eq free fits unread =>
    simp [bulkOut, Nat.not_lt.2 fits, state_eq, free, first, unread]
  | discarded state_eq fits => exact bulkOut_of_lengthError state_eq fits
  | rejected piece wrong => rw [bulkOut_of_extends piece, if_pos wrong]
  | dispatched piece right last => rw [bulkOut_of_extends piece, if_neg right, if_pos last]
  | kept piece right full more =>
    rw [bulkOut_of_extends piece, if_neg right, if_neg (by omega)]

/-- A piece of a command has one of three fates. -/
theorem exists_fate_of_extends {message : Message} (h : r.Extends packet message) :
    ∃ result, r.Fate packet result := by
  by_cases hwrong : r.overlong packet message
  · exact ⟨_, .rejected h hwrong⟩
  by_cases hlast : packet.length < packetSize ∨ message.received = message.expected
  · exact ⟨_, .dispatched h hwrong hlast⟩
  have hfull : packet.length = packetSize := by
    have hfits := h.fits
    omega
  have hright : message.received ≤ message.expected := by
    cases h with
    | first state_eq =>
      rw [overlong_of_idle state_eq] at hwrong
      omega
    | next state_eq =>
      rw [overlong_of_receiving state_eq] at hwrong
      omega
  exact ⟨_, .kept h hwrong hfull (by omega)⟩

theorem exists_fate (r : Reassembler κ) (packet : List UInt8) : ∃ result, r.Fate packet result := by
  by_cases hlong : packetSize < packet.length
  · exact ⟨_, .oversized hlong⟩
  have hfits := Nat.not_lt.1 hlong
  by_cases herror : r.state = .lengthError
  · exact ⟨_, .discarded herror hfits⟩
  by_cases hpending : r.response.isSome
  · exact ⟨_, .early herror hpending⟩
  have hfree : r.response = none := Option.not_isSome_iff_eq_none.1 hpending
  cases hstate : r.state with
  | lengthError => exact absurd hstate herror
  | receivingData => exact exists_fate_of_extends (.next hstate hfree hfits)
  | idle =>
    cases hread : CommandHeader.parse? packet with
    | none => exact ⟨_, .runt hstate hfree hfits hread⟩
    | some header => exact exists_fate_of_extends (.first hstate hfree hfits hread)

/-- A packet has exactly one fate, and it is what the endpoints make of it. -/
theorem fate_iff {result : PacketOutcome × Reassembler κ} :
    r.Fate packet result ↔ r.bulkOut packet = result := by
  refine ⟨bulkOut_of_fate, fun h => ?_⟩
  obtain ⟨other, hother⟩ := exists_fate r packet
  rw [← h, bulkOut_of_fate hother]
  exact hother

theorem fate (r : Reassembler κ) (packet : List UInt8) : r.Fate packet (r.bulkOut packet) :=
  fate_iff.2 rfl

/-- A packet that cannot hold a header starts no command. -/
theorem bulkOut_of_no_header (hstate : r.state = .idle) (hshort : packet.length < headerSize) :
    r.bulkOut packet = (.ignored, r) := by
  have hfate := fate r packet
  generalize r.bulkOut packet = result at hfate
  cases hfate with
  | oversized | early | runt => rfl
  | discarded state_eq =>
    rw [hstate] at state_eq
    cases state_eq
  | rejected piece | dispatched piece | kept piece =>
    cases piece with
    | first state_eq free fits read =>
      have hlong := CommandHeader.isSome_parse?.1 (by rw [read]; rfl)
      omega
    | next state_eq =>
      rw [hstate] at state_eq
      cases state_eq

/-! ## Runs of packets -/

end Reassembler

/-- What is seen of a packet. -/
structure Receipt where
  /-- It was read as the header of a command. -/
  header : Bool
  /-- What became of it. -/
  outcome : PacketOutcome
  deriving DecidableEq

/-- Whether a packet was answered by a response. -/
def PacketOutcome.answers : PacketOutcome → Bool
  | dispatched _ | rejected => true
  | ignored | needMore | discarded => false

/-- What the host sees of a message that it sends. -/
structure Exchange where
  /-- What became of its packets. -/
  receipts : List Receipt
  /-- The response that the host takes after the last of them. -/
  response : Option Response
  deriving DecidableEq

/-- The exchange has one answer, and it goes to a given slot and number. -/
structure AnswersOnce (echo : Echo) (exchange : Exchange) : Prop where
  once : exchange.receipts.countP (·.outcome.answers) = 1
  own : ∃ response, exchange.response = some response ∧
    response.slot = echo.slot ∧ response.seq = echo.seq

namespace Reassembler

variable {κ : Type} [SmartCard κ] {r : Reassembler κ}

/-- Hands over packets one after another. -/
def feed (r : Reassembler κ) : List (List UInt8) → List Receipt × Reassembler κ
  | [] => ([], r)
  | packet :: rest =>
    let (outcome, after) := r.bulkOut packet
    let (receipts, last) := feed after rest
    (⟨r.readsHeader packet, outcome⟩ :: receipts, last)

/-- Sends a message, packet by packet, and takes the response. -/
def exchange (r : Reassembler κ) (message : List UInt8) : Exchange × Reassembler κ :=
  let (receipts, fed) := r.feed (packets message)
  let (response, last) := fed.bulkInComplete
  (⟨receipts, response⟩, last)

/-- Sends messages one after another. -/
def session (r : Reassembler κ) : List (List UInt8) → List Exchange × Reassembler κ
  | [] => ([], r)
  | message :: rest =>
    let (first, after) := r.exchange message
    let (others, last) := session after rest
    (first :: others, last)

theorem feed_cons (r : Reassembler κ) (packet : List UInt8) (rest : List (List UInt8)) :
    r.feed (packet :: rest) =
      (⟨r.readsHeader packet, (r.bulkOut packet).1⟩ :: ((r.bulkOut packet).2.feed rest).1,
        ((r.bulkOut packet).2.feed rest).2) := rfl

/-- While a response is held, packets are ignored. -/
theorem feed_of_pending (hpending : r.response.isSome) (hstate : r.state ≠ .lengthError)
    (list : List (List UInt8)) :
    r.feed list = (List.replicate list.length ⟨false, .ignored⟩, r) := by
  induction list with
  | nil => rfl
  | cons packet rest ih =>
    rw [feed_cons, bulkOut_of_pending hpending hstate, readsHeader_of_pending hpending, ih]
    rfl

/-- After a command that has been carried out packets are ignored. -/
theorem feed_complete (r : Reassembler κ) (list : List (List UInt8)) :
    r.complete.2.feed list = (List.replicate list.length ⟨false, .ignored⟩, r.complete.2) := by
  have hidle : r.complete.2.state = .idle := rfl
  exact feed_of_pending rfl (by rw [hidle]; nofun) list

/-- After a rejected command the next packet is discarded, and all others are ignored. -/
theorem feed_reject (r : Reassembler κ) {packet : List UInt8} (hfits : packet.length ≤ packetSize)
    (rest : List (List UInt8)) :
    r.reject.2.feed (packet :: rest) =
      (⟨false, .discarded⟩ :: List.replicate rest.length ⟨false, .ignored⟩,
        { r.reject.2 with state := .idle }) := by
  have herror : r.reject.2.state = .lengthError := rfl
  have hstep : r.reject.2.bulkOut packet = (.discarded, { r.reject.2 with state := .idle }) :=
    bulkOut_of_lengthError herror hfits
  have hrest := feed_of_pending (r := { r.reject.2 with state := .idle }) rfl nofun rest
  rw [feed_cons, hstep, readsHeader_of_not_idle (by rw [herror]; nofun)]
  simp only [hrest]

end Reassembler

end CardReader.Ccid
