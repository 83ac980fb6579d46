import Mathlib.Data.List.Forall2
import CardReader.Ccid.VirtualCard
import CardReader.Proofs.Ccid.Exchange

/-!
# Commands of an honest host

An honest host announces the length that it sends, splits its commands into full packets and one
short packet, and takes the response after the last of them.  The endpoints then work like a
reader without packets: each command in turn is carried out once, or refused if it is too long,
and its one response goes back to its own slot and number.

What is proved here:

* `feed_rest` — the packets after the first complete a command that fits;
* `exchange_command` — everything that happens to one command;
* `session_commands` — and to any number of them.
-/

namespace CardReader.Ccid

/-- A command as an honest host sends it. -/
structure HostCommand where
  /-- The message type. -/
  type : UInt8
  /-- The slot addressed. -/
  slot : UInt8
  /-- The number of the command. -/
  seq : UInt8
  /-- The message-specific bytes. -/
  params : CommandParams
  /-- The payload. -/
  payload : List UInt8
  /-- The length field holds the length of the payload. -/
  length_lt : payload.length < lengthLimit

/-- What becomes of the packets of a command of `length` bytes that is carried out: the last packet
that brings bytes completes it, and an empty packet after a full one is ignored. -/
def deliveries (type : UInt8) (length : Nat) : List PacketOutcome :=
  List.replicate ((length - 1) / packetSize) .needMore ++
    .dispatched type :: if packetSize ∣ length then [.ignored] else []

namespace HostCommand

variable (command : HostCommand)

/-- The header. -/
def header : CommandHeader :=
  { type := command.type
    length := command.payload.length
    slot := command.slot
    seq := command.seq
    params := command.params }

/-- Where its response has to go. -/
def echo : Echo := ⟨command.slot, command.seq⟩

/-- The bytes that the host sends. -/
def bytes : List UInt8 :=
  commandBytes command.type command.slot command.seq command.params command.payload

/-- The message to be carried out, with the whole payload and nothing else. -/
def message : Message :=
  { slot := command.slot
    seq := command.seq
    type := command.type
    declared := command.payload.length
    params := command.params
    headerReceived := true
    received := command.payload.length + headerSize
    payload := command.payload }

/-- What becomes of the packets. -/
def outcomes : List PacketOutcome :=
  if command.payload.length ≤ maxPayload then deliveries command.type command.bytes.length
  else .rejected :: .discarded ::
    List.replicate (command.bytes.length / packetSize - 1) .ignored

/-- What is seen of the packets, of which the first alone is read as a header. -/
def receipts : List Receipt :=
  match command.outcomes with
  | [] => []
  | first :: others => ⟨true, first⟩ :: others.map (⟨false, ·⟩)

/-- The response, and the slot and the card after it. -/
def answer {κ : Type} [SmartCard κ] (slot : Slot) (card : κ) : Response × Slot × κ :=
  if command.payload.length ≤ maxPayload then Slot.dispatch command.message slot card
  else (Reassembler.refusal slot card command.message, slot, card)

theorem bytes_eq : command.bytes = command.header.bytes ++ command.payload := rfl

theorem length_bytes : command.bytes.length = command.payload.length + headerSize := by
  rw [bytes_eq, List.length_append, CommandHeader.length_bytes, Nat.add_comm]

/-- The header of the command is that of its first packet. -/
theorem parse?_take :
    CommandHeader.parse? (command.bytes.take packetSize) = some command.header := by
  have hlength := command.length_bytes
  rw [CommandHeader.parse?_take (by decide) (by omega), bytes_eq]
  exact CommandHeader.parse?_bytes command.length_lt _

theorem length_eq_message : command.message.lengthConsistent = true := by
  simp [Message.lengthConsistent, Message.expected, message]

theorem answer_echo {κ : Type} [SmartCard κ] (slot : Slot) (card : κ) :
    (command.answer slot card).1.slot = command.slot ∧
      (command.answer slot card).1.seq = command.seq := by
  unfold answer
  split
  · exact ⟨Slot.dispatch_slot _ _ _, Slot.dispatch_seq _ _ _⟩
  · exact ⟨rfl, rfl⟩

end HostCommand

/-! ## Messages that fit -/

theorem Message.append_of_room {message : Message} {packet : List UInt8}
    (h : message.payload.length + packet.length ≤ maxPayload) :
    message.append packet =
      { message with
        received := message.received + packet.length
        payload := message.payload ++ packet } := by
  rw [append, store]
  simp only
  rw [List.take_of_length_le (by omega)]

/-- What a first packet that is full makes of a command that is longer. -/
def HostCommand.opening (command : HostCommand) : Message :=
  { command.message with
    received := packetSize
    payload := command.payload.take (packetSize - headerSize) }

theorem HostCommand.start_take (command : HostCommand)
    (hfits : command.payload.length ≤ maxPayload) :
    Message.start command.header (command.bytes.take packetSize) =
      if command.bytes.length ≤ packetSize then command.message else command.opening := by
  have hlength := command.length_bytes
  have hdrop : (command.bytes.take packetSize).drop headerSize =
      command.payload.take (packetSize - headerSize) := by
    rw [List.drop_take, bytes_eq, ← CommandHeader.length_bytes command.header, List.drop_left]
  have hroom : (command.payload.take (packetSize - headerSize)).length ≤ maxPayload := by
    rw [List.length_take]
    omega
  rw [Message.start, Message.store]
  simp only [hdrop, List.length_take, List.length_nil, List.nil_append, Nat.sub_zero,
    List.take_of_length_le hroom]
  split
  · rename_i hshort
    rw [List.take_of_length_le (by simp only [packetSize, headerSize] at *; omega),
      Nat.min_eq_right hshort, hlength]
    rfl
  · rw [Nat.min_eq_left (by omega)]
    rfl

/-! ## One command -/

namespace Reassembler

variable {κ : Type} [SmartCard κ] {r : Reassembler κ}

theorem deliveries_of_full {type : UInt8} {length : Nat} (h : packetSize < length) :
    deliveries type length = .needMore :: deliveries type (length - packetSize) := by
  have hcount : (length - 1) / packetSize = (length - packetSize - 1) / packetSize + 1 := by
    simp only [packetSize] at h ⊢
    omega
  have hwhole : packetSize ∣ length ↔ packetSize ∣ length - packetSize := by
    simp only [packetSize] at h ⊢
    omega
  simp only [deliveries, hcount, hwhole, List.replicate_succ, List.cons_append]

/-- A packet that brings no more than is missing is kept, and completes the command if it is short
or if nothing is missing any more. -/
theorem bulkOut_next {packet : List UInt8} (hstate : r.state = .receivingData)
    (hfree : r.response = none) (hfits : packet.length ≤ packetSize)
    (hlength : r.message.received + packet.length ≤ r.message.expected) :
    r.bulkOut packet =
      if packet.length < packetSize ∨ r.message.received + packet.length = r.message.expected then
        complete { r with message := r.message.append packet }
      else (.needMore, { r with state := .receivingData, message := r.message.append packet }) := by
  have hright : ¬r.overlong packet (r.message.append packet) := by
    rw [overlong_of_receiving hstate, Message.expected_append, Message.received_append]
    omega
  rw [bulkOut_of_extends (.next hstate hfree hfits), if_neg hright]
  rfl

/-- The packets after the first complete a command, if they bring what is missing and there is
room for it. -/
theorem feed_rest (hstate : r.state = .receivingData) (hfree : r.response = none)
    {rest : List UInt8} (hmore : rest ≠ [])
    (hlength : r.message.received + rest.length = r.message.expected)
    (hroom : r.message.payload.length + rest.length ≤ maxPayload) :
    r.feed (packets rest) =
      ((deliveries r.message.type rest.length).map (⟨false, ·⟩),
        (complete { r with message := { r.message with
          received := r.message.expected, payload := r.message.payload ++ rest } }).2) := by
  have hunread : ∀ packet, r.readsHeader packet = false := fun _ =>
    readsHeader_of_receiving hstate
  have hpos := List.length_pos_iff.2 hmore
  fun_induction packets rest generalizing r with
  | case1 rest hfull ih =>
    have hpacket : (rest.take packetSize).length = packetSize := by
      rw [List.length_take]
      omega
    have hlast : (rest.drop packetSize).length = rest.length - packetSize := List.length_drop
    have hstep := bulkOut_next hstate hfree (Nat.le_of_eq hpacket) (by omega)
    by_cases hwhole : rest.length = packetSize
    · -- the full packet completes the command, and an empty one follows
      have hnil : rest.drop packetSize = [] := List.drop_of_length_le (by omega)
      rw [if_pos (.inr (by omega)), List.take_of_length_le (by omega),
        Message.append_of_room hroom, hlength] at hstep
      rw [feed_cons, List.take_of_length_le (by omega), hstep, hunread, hnil,
        packets_of_lt (by decide), feed_complete]
      simp [deliveries, hwhole, packetSize, complete_eq]
    · have hlong : packetSize < rest.length := by omega
      rw [if_neg (by omega), Message.append_of_room (by omega), hpacket] at hstep
      have hrest := ih (r := (r.bulkOut (rest.take packetSize)).2) (by rw [hstep])
        (by rw [hstep, hfree]) (List.ne_nil_of_length_pos (by omega))
        (by rw [hstep]; simp only [Message.expected] at hlength ⊢; omega)
        (by rw [hstep, List.length_append]; omega)
        (fun _ => readsHeader_of_receiving (by rw [hstep])) (by omega)
      rw [feed_cons, hrest, hunread, deliveries_of_full hlong, hlast, hstep]
      simp [complete_eq, Message.expected]
  | case2 rest hshort =>
    have hstep := bulkOut_next hstate hfree (by omega : rest.length ≤ packetSize) (by omega)
    rw [if_pos (.inl (by omega)), Message.append_of_room hroom, hlength] at hstep
    have hnot : ¬packetSize ∣ rest.length := Nat.not_dvd_of_pos_of_lt hpos (by omega)
    rw [feed_cons, hstep, hunread, deliveries, if_neg hnot, Nat.div_eq_of_lt (by omega)]
    rfl

omit [SmartCard κ] in
theorem readsHeader_command (hstate : r.state = .idle) (hfree : r.response = none)
    (command : HostCommand) : r.readsHeader (command.bytes.take packetSize) = true := by
  have hlength := command.length_bytes
  refine decide_eq_true ⟨hstate, by rw [hfree]; rfl, List.length_take_le _ _, ?_⟩
  rw [List.length_take]
  simp only [packetSize, headerSize] at *
  omega

/-- The first packet of a command that fits. -/
theorem bulkOut_first (hstate : r.state = .idle) (hfree : r.response = none)
    (command : HostCommand) (hfits : command.payload.length ≤ maxPayload) :
    r.bulkOut (command.bytes.take packetSize) =
      if command.bytes.length ≤ packetSize then complete { r with message := command.message }
      else (.needMore, { r with state := .receivingData, message := command.opening }) := by
  have hlength := command.length_bytes
  have hpacket : (command.bytes.take packetSize).length = min packetSize command.bytes.length :=
    List.length_take
  have hextends := Extends.first hstate hfree (List.length_take_le _ _) command.parse?_take
  have hstep := bulkOut_of_extends hextends
  rw [command.start_take hfits] at hstep
  by_cases hshort : command.bytes.length ≤ packetSize
  · rw [if_pos hshort] at hstep ⊢
    have hright : ¬r.overlong (command.bytes.take packetSize) command.message := by
      simp only [overlong_of_idle hstate, HostCommand.message, Message.expected]
      omega
    rw [hstep, if_neg hright, if_pos (.inr rfl)]
  · rw [if_neg hshort] at hstep ⊢
    have hright : ¬r.overlong (command.bytes.take packetSize) command.opening := by
      simp only [overlong_of_idle hstate, HostCommand.opening, HostCommand.message,
        Message.expected]
      omega
    have hmore : ¬command.opening.received = command.opening.expected := by
      simp only [HostCommand.opening, HostCommand.message, Message.expected]
      omega
    rw [hstep, if_neg hright, if_neg (by omega)]

/-- A command that fits is carried out once, with its whole payload. -/
theorem feed_of_fits (hstate : r.state = .idle) (hfree : r.response = none)
    (command : HostCommand) (hfits : command.payload.length ≤ maxPayload) :
    r.feed (packets command.bytes) =
      (command.receipts, (complete { r with message := command.message }).2) := by
  have hlength := command.length_bytes
  have hhead := readsHeader_command hstate hfree command
  have hstep := bulkOut_first hstate hfree command hfits
  have hreceipts : command.receipts = match deliveries command.type command.bytes.length with
      | [] => []
      | first :: others => ⟨true, first⟩ :: others.map (⟨false, ·⟩) := by
    rw [HostCommand.receipts, HostCommand.outcomes, if_pos hfits]
  by_cases hshort : command.bytes.length < packetSize
  · have hnot : ¬packetSize ∣ command.bytes.length :=
      Nat.not_dvd_of_pos_of_lt (by simp only [headerSize] at hlength; omega) hshort
    rw [if_pos (Nat.le_of_lt hshort)] at hstep
    rw [List.take_of_length_le (Nat.le_of_lt hshort)] at hhead hstep
    rw [packets_of_lt hshort, feed_cons, hhead, hstep, hreceipts, deliveries, if_neg hnot,
      Nat.div_eq_of_lt (by omega)]
    rfl
  rw [packets_of_le (Nat.le_of_not_lt hshort), feed_cons, hhead, hstep]
  by_cases hwhole : command.bytes.length = packetSize
  · rw [if_pos (Nat.le_of_eq hwhole), List.drop_of_length_le (Nat.le_of_eq hwhole),
      packets_of_lt (by decide), feed_complete, hreceipts, hwhole]
    rfl
  · have hlong : packetSize < command.bytes.length := by omega
    have hrest : (command.bytes.drop packetSize).length = command.bytes.length - packetSize :=
      List.length_drop
    have hpayload : command.opening.payload ++ command.bytes.drop packetSize = command.payload := by
      rw [HostCommand.opening, HostCommand.bytes_eq, List.drop_append,
        CommandHeader.length_bytes, List.drop_of_length_le (Nat.le_of_ble_eq_true rfl), List.nil_append,
        List.take_append_drop]
    have hopening : command.opening.received = packetSize := rfl
    have hexpected : command.opening.expected = command.bytes.length := hlength.symm
    have hroom := congrArg List.length hpayload
    rw [List.length_append] at hroom
    have hothers := feed_rest (r := { r with state := .receivingData, message := command.opening })
      rfl hfree (List.ne_nil_of_length_pos (by omega : 0 < (command.bytes.drop packetSize).length))
      (by simp only [hopening, hexpected]; omega) (by simp only; omega)
    rw [if_neg (by omega), hothers, hreceipts, deliveries_of_full hlong, hrest]
    simp only [hpayload, hexpected, hlength]
    rfl

/-- A command that is too long is refused at its first packet, the second is discarded and all
others are ignored. -/
theorem feed_of_too_long (hstate : r.state = .idle) (hfree : r.response = none)
    (command : HostCommand) (hlong : maxPayload < command.payload.length) :
    r.feed (packets command.bytes) =
      (command.receipts,
        { r with message := {}, response := some (refusal r.slot r.card command.message) }) := by
  have hlength := command.length_bytes
  have hfull : packetSize ≤ command.bytes.length := by
    simp only [packetSize, maxPayload] at hlong ⊢
    omega
  have hstep := bulkOut_of_extends
    (.first hstate hfree (List.length_take_le _ _) command.parse?_take)
  have hwrong : r.overlong (command.bytes.take packetSize)
      (.start command.header (command.bytes.take packetSize)) :=
    (overlong_of_idle hstate).2 (.inl hlong)
  rw [if_pos hwrong] at hstep
  obtain ⟨packet, rest, hpackets, hfits, hrest⟩ :=
    exists_packets_eq_cons (command.bytes.drop packetSize)
  rw [packets_of_le hfull, feed_cons, hstep, readsHeader_command hstate hfree, hpackets,
    feed_reject _ hfits, hrest, List.length_drop]
  have hcount : (command.bytes.length - packetSize) / packetSize =
      command.bytes.length / packetSize - 1 := by
    simp only [packetSize]
    omega
  rw [HostCommand.receipts, HostCommand.outcomes, if_neg (Nat.not_le.2 hlong), hcount]
  simp [reject_eq, hstate]
  rfl

/-- Everything that happens to one command. -/
theorem exchange_command (hstate : r.state = .idle) (hfree : r.response = none)
    (command : HostCommand) :
    r.exchange command.bytes =
      (⟨command.receipts, some (command.answer r.slot r.card).1⟩,
        { state := .idle
          message := {}
          slot := (command.answer r.slot r.card).2.1
          card := (command.answer r.slot r.card).2.2
          response := none }) := by
  by_cases hfits : command.payload.length ≤ maxPayload
  · rw [exchange, feed_of_fits hstate hfree command hfits, HostCommand.answer, if_pos hfits]
    rfl
  · rw [exchange, feed_of_too_long hstate hfree command (Nat.lt_of_not_le hfits),
      HostCommand.answer, if_neg hfits, hstate]
    rfl

/-! ## Any number of commands -/

/-- What the host sees of its commands when they are carried out one by one, and the slot and the
card after them. -/
def serve (slot : Slot) (card : κ) : List HostCommand → List Exchange × Slot × κ
  | [] => ([], slot, card)
  | command :: rest =>
    let (response, slot, card) := command.answer slot card
    let (others, slot, card) := serve slot card rest
    (⟨command.receipts, some response⟩ :: others, slot, card)

theorem countP_receipts (command : HostCommand) :
    command.receipts.countP (·.outcome.answers) = 1 := by
  have hwhole : command.outcomes.countP PacketOutcome.answers = 1 := by
    unfold HostCommand.outcomes
    split
    · by_cases hfull : packetSize ∣ command.bytes.length
      · simp [deliveries, hfull, PacketOutcome.answers, List.countP_replicate, List.countP_cons]
      · simp [deliveries, hfull, PacketOutcome.answers, List.countP_replicate, List.countP_cons]
    · simp [PacketOutcome.answers, List.countP_replicate, List.countP_cons]
  rw [← hwhole, HostCommand.receipts]
  cases command.outcomes with
  | nil => rfl
  | cons first others => simp [List.countP_cons, List.countP_map, Function.comp_def]

/-- An honest host is served exactly once for each command and in order: what it sees of any number
of commands, and the slot and the card in the end, are what carrying them out one by one leads
to. -/
theorem session_commands (hstate : r.state = .idle) (hfree : r.response = none)
    (commands : List HostCommand) :
    ∃ last, r.session (commands.map HostCommand.bytes) = ((serve r.slot r.card commands).1, last) ∧
      (last.slot, last.card) = (serve r.slot r.card commands).2 ∧
      last.state = .idle ∧ last.response = none ∧
      List.Forall₂ (AnswersOnce ·.echo) commands (serve r.slot r.card commands).1 ∧
      ∀ command ∈ commands, command.message.payload = command.payload ∧
        command.message.lengthConsistent = true := by
  induction commands generalizing r with
  | nil => exact ⟨r, rfl, rfl, hstate, hfree, .nil, nofun⟩
  | cons command rest ih =>
    have hfirst := exchange_command hstate hfree command
    obtain ⟨last, hrest, hlast, hidle, hnone, hanswers, hmessages⟩ :=
      ih (r := (r.exchange command.bytes).2) (by rw [hfirst]) (by rw [hfirst])
    rw [hfirst] at hrest hlast hanswers
    refine ⟨last, ?_, hlast, hidle, hnone, .cons ?_ hanswers, ?_⟩
    · rw [List.map_cons, session, hfirst]
      simp only [hrest]
      rfl
    · exact ⟨countP_receipts command, _, rfl, command.answer_echo _ _⟩
    · intro other hother
      rcases List.mem_cons.1 hother with rfl | hother
      · exact ⟨rfl, other.length_eq_message⟩
      · exact hmessages other hother

/-- A card is activated, gets an APDU that fills a packet, and a command of 262 bytes is refused. -/
theorem session_of_three_commands :
    let r := Reassembler.new ({} : VirtualCard)
    let commands : List HostCommand :=
      [⟨0x62, 0, 7, {}, [], by decide⟩,
        ⟨0x6F, 0, 8, {}, List.replicate 54 0xA5, by rw [List.length_replicate]; decide⟩,
        ⟨0x6F, 0, 9, {}, List.replicate 262 0x5A, by rw [List.length_replicate]; decide⟩]
    let exchanges := (r.session (commands.map HostCommand.bytes)).1
    r.state = .idle ∧ r.response = none ∧
      exchanges.map (·.receipts.map (·.outcome)) =
        [[.dispatched 0x62], [.dispatched 0x6F, .ignored],
          [.rejected, .discarded, .ignored, .ignored, .ignored]] ∧
      exchanges.map (·.response.map Response.bytes) =
        [some [0x80, 4, 0, 0, 0, 0, 7, 0, 0, 0, 0x3B, 0x02, 0x14, 0x50],
          some [0x80, 2, 0, 0, 0, 0, 8, 0, 0, 0, 0x90, 0x00],
          some [0x81, 0, 0, 0, 0, 0, 9, 0x40, 0x08, 0]] := by
  intro r commands exchanges
  obtain ⟨last, hsession, -⟩ := session_commands (r := r) rfl rfl commands
  have hexchanges : exchanges = (serve r.slot r.card commands).1 := by
    simp only [exchanges, hsession]
  rw [hexchanges]
  refine ⟨rfl, rfl, ?_, ?_⟩
  · decide +kernel
  · decide +kernel

end Reassembler

end CardReader.Ccid
