import Mathlib.Data.List.Forall2
import CardReader.Ccid.VirtualCard
import CardReader.Proofs.Ccid.Exchange

/-!
# Messages of any host

A host may send anything, announce one length and send another.  Each of its messages is answered
once all the same, and no packet but the first is taken for a header; but a message that is
rejected at its very last packet leaves the endpoints waiting for one more packet to discard, and
this is then the first packet of the next message.

What is proved here:

* `refusedLast` — the messages that are rejected at their last packet;
* `followed_rest` and `exchange_message` — what becomes of one message;
* `session_framed_iff` — a run of messages stays framed exactly if none but the last of them is
  rejected at its last packet;
* `session_loses_frame` — a message that is lost after one that was.
-/

namespace CardReader.Ccid

/-! ## Messages that are rejected at their last packet -/

/-- The message is rejected, and not before its last packet: it comes in one short packet and
announces too much, or its full packets bring less than it announces and the short one brings
more. -/
def refusedLast (message : List UInt8) : Bool :=
  match CommandHeader.parse? message with
  | none => false
  | some header =>
    if message.length < packetSize then decide (maxPayload < header.length)
    else decide (header.length ≤ maxPayload ∧
      message.length / packetSize * packetSize < header.length + headerSize ∧
      header.length + headerSize < message.length)

section

variable {message : List UInt8} {header : CommandHeader}

theorem refusedLast_iff_of_lt (hread : CommandHeader.parse? message = some header)
    (hshort : message.length < packetSize) : refusedLast message ↔ maxPayload < header.length := by
  simp only [refusedLast, hread, if_pos hshort, decide_eq_true_eq]

theorem refusedLast_iff_of_le (hread : CommandHeader.parse? message = some header)
    (hfull : packetSize ≤ message.length) : refusedLast message ↔ header.length ≤ maxPayload ∧
      message.length / packetSize * packetSize < header.length + headerSize ∧
      header.length + headerSize < message.length := by
  simp only [refusedLast, hread, if_neg (Nat.not_lt.2 hfull), decide_eq_true_eq]

end

/-- The exchange of a message: one answer to its own slot and number, and only the first packet
can be read as a header. -/
structure Framed (message : List UInt8) (exchange : Exchange) : Prop where
  answered : ∃ header, CommandHeader.parse? message = some header ∧
    AnswersOnce ⟨header.slot, header.seq⟩ exchange
  unread : ∀ receipt ∈ exchange.receipts.tail, receipt.header = false

namespace Reassembler

variable {κ : Type} [SmartCard κ] {r : Reassembler κ}

/-! ## After a packet -/

/-- Once a packet has led to `step`, the packets after it are not read as headers, all of them
together have one answer, and the endpoints end in `state`. -/
structure Followed (echo : Echo) (state : BulkState) (step : PacketOutcome × Reassembler κ)
    (list : List (List UInt8)) : Prop where
  unread : ∀ receipt ∈ (step.2.feed list).1, receipt.header = false
  once : (if step.1.answers then 1 else 0) +
    (step.2.feed list).1.countP (·.outcome.answers) = 1
  own : ∃ response, (step.2.feed list).2.response = some response ∧
    response.slot = echo.slot ∧ response.seq = echo.seq
  state_eq : (step.2.feed list).2.state = state

/-- One more packet in front. -/
theorem Followed.cons {echo : Echo} {state : BulkState} {packet : List UInt8}
    {list : List (List UInt8)} (h : Followed echo state (r.bulkOut packet) list)
    (hunread : r.readsHeader packet = false) :
    Followed echo state (.needMore, r) (packet :: list) := by
  obtain ⟨unread, once, own, state_eq⟩ := h
  refine ⟨?_, ?_, own, state_eq⟩
  · intro receipt hreceipt
    rcases List.mem_cons.1 hreceipt with rfl | hreceipt
    · exact hunread
    · exact unread receipt hreceipt
  · have hmore : PacketOutcome.needMore.answers = false := rfl
    rw [feed_cons, List.countP_cons, hmore, if_neg Bool.false_ne_true, Nat.zero_add, Nat.add_comm]
    exact once

theorem followed_complete (r : Reassembler κ) (list : List (List UInt8)) :
    Followed ⟨r.message.slot, r.message.seq⟩ .idle r.complete list := by
  have hfeed := feed_complete r list
  refine ⟨?_, ?_, ?_, ?_⟩
  · rw [hfeed]
    intro receipt hreceipt
    rw [List.eq_of_mem_replicate hreceipt]
  · rw [hfeed, List.countP_replicate]
    rfl
  · rw [hfeed]
    exact ⟨_, rfl, Slot.dispatch_slot _ _ _, Slot.dispatch_seq _ _ _⟩
  · rw [hfeed]
    rfl

theorem followed_reject_last (r : Reassembler κ) :
    Followed ⟨r.message.slot, r.message.seq⟩ .lengthError r.reject [] :=
  ⟨nofun, rfl, ⟨_, rfl, rfl, rfl⟩, rfl⟩

theorem followed_reject (r : Reassembler κ) (message : List UInt8) :
    Followed ⟨r.message.slot, r.message.seq⟩ .idle r.reject (packets message) := by
  obtain ⟨packet, rest, hpackets, hfits, -⟩ := exists_packets_eq_cons message
  have hfeed := feed_reject r hfits rest
  rw [hpackets]
  refine ⟨?_, ?_, ?_, ?_⟩
  · rw [hfeed]
    intro receipt hreceipt
    rcases List.mem_cons.1 hreceipt with rfl | hreceipt
    · rfl
    · rw [List.eq_of_mem_replicate hreceipt]
  · rw [hfeed, List.countP_cons, List.countP_replicate]
    rfl
  · rw [hfeed]
    exact ⟨_, rfl, rfl, rfl⟩
  · rw [hfeed]

/-- The state in which the rest of a message leaves the endpoints: with a packet still to be
discarded, if only its last packet shows that it is too long. -/
def stateAfter (received expected length : Nat) : BulkState :=
  if received + length / packetSize * packetSize < expected ∧ expected < received + length then
    .lengthError
  else .idle

theorem stateAfter_of_full {received expected length : Nat} (h : packetSize ≤ length) :
    stateAfter received expected length =
      stateAfter (received + packetSize) expected (length - packetSize) := by
  have hcount : received + length / packetSize * packetSize =
      received + packetSize + (length - packetSize) / packetSize * packetSize := by
    simp only [packetSize] at *
    omega
  have htotal : received + length = received + packetSize + (length - packetSize) := by omega
  rw [stateAfter, stateAfter, ← hcount, ← htotal]

theorem stateAfter_of_le {received expected length : Nat} (h : expected ≤ received) :
    stateAfter received expected length = .idle :=
  if_neg fun hlast => by omega

theorem stateAfter_of_lt {received expected length : Nat} (hmore : received < expected)
    (hshort : length < packetSize) :
    stateAfter received expected length =
      if expected < received + length then .lengthError else .idle := by
  simp only [stateAfter, Nat.div_eq_of_lt hshort, Nat.zero_mul, Nat.add_zero, hmore, true_and]

/-- The packets after the first, of a message that is still coming in. -/
theorem followed_rest (hstate : r.state = .receivingData) (hfree : r.response = none)
    (hmore : r.message.received < r.message.expected) (rest : List UInt8) :
    Followed ⟨r.message.slot, r.message.seq⟩
      (stateAfter r.message.received r.message.expected rest.length) (.needMore, r)
      (packets rest) := by
  have hunread : ∀ packet, r.readsHeader packet = false := fun _ =>
    readsHeader_of_receiving hstate
  fun_induction packets rest generalizing r with
  | case1 rest hfull ih =>
    have hpacket : (rest.take packetSize).length = packetSize := by
      rw [List.length_take]
      omega
    have hstep := bulkOut_of_extends (.next hstate hfree (Nat.le_of_eq hpacket))
    simp only [overlong_of_receiving hstate, Message.received_append, Message.expected_append,
      hpacket] at hstep
    rw [stateAfter_of_full hfull]
    refine Followed.cons ?_ (hunread _)
    rw [hstep]
    by_cases hover : r.message.expected < r.message.received + packetSize
    · rw [if_pos hover, stateAfter_of_le (Nat.le_of_lt hover)]
      exact followed_reject { r with message := r.message.append (rest.take packetSize) } _
    rw [if_neg hover]
    by_cases hwhole : r.message.received + packetSize = r.message.expected
    · rw [if_pos (.inr hwhole), stateAfter_of_le (Nat.le_of_eq hwhole.symm)]
      exact followed_complete { r with message := r.message.append (rest.take packetSize) } _
    · rw [if_neg (by omega)]
      have hrest := ih (r := { r with
        state := .receivingData, message := r.message.append (rest.take packetSize) }) rfl hfree
        (by simp only [Message.received_append, Message.expected_append, hpacket]; omega)
        (fun _ => readsHeader_of_receiving rfl)
      simpa only [Message.received_append, Message.expected_append, Message.slot_append,
        Message.seq_append, hpacket, List.length_drop] using hrest
  | case2 rest hshort =>
    have hpacket := Nat.lt_of_not_le hshort
    have hstep := bulkOut_of_extends (.next hstate hfree (Nat.le_of_lt hpacket))
    have hwrong : r.overlong rest (r.message.append rest) ↔
        r.message.expected < r.message.received + rest.length := overlong_of_receiving hstate
    rw [stateAfter_of_lt hmore hpacket]
    refine Followed.cons ?_ (hunread _)
    rw [hstep]
    by_cases hover : r.message.expected < r.message.received + rest.length
    · rw [if_pos (hwrong.2 hover), if_pos hover]
      exact followed_reject_last { r with message := r.message.append rest }
    · rw [if_neg (mt hwrong.1 hover), if_neg hover, if_pos (.inl hpacket)]
      exact followed_complete { r with message := r.message.append rest } _

/-! ## One message -/

/-- The first packet of a message, and all that come after it. -/
theorem followed_first (hstate : r.state = .idle) (hfree : r.response = none)
    {message : List UInt8} {header : CommandHeader}
    (hread : CommandHeader.parse? message = some header) :
    ∃ packet rest, packets message = packet :: rest ∧
      Followed ⟨header.slot, header.seq⟩ (if refusedLast message then .lengthError else .idle)
        (r.bulkOut packet) rest := by
  have hlong : headerSize ≤ message.length :=
    CommandHeader.isSome_parse?.1 (by rw [hread]; rfl)
  by_cases hshort : message.length < packetSize
  · have hlast := refusedLast_iff_of_lt hread hshort
    have hstep := bulkOut_of_extends (.first hstate hfree (Nat.le_of_lt hshort) hread)
    simp only [overlong_of_idle hstate, Message.declared_start, Nat.ne_of_lt hshort, false_and,
      or_false] at hstep
    refine ⟨message, [], packets_of_lt hshort, ?_⟩
    rw [hstep]
    by_cases hover : maxPayload < header.length
    · rw [if_pos hover, if_pos (hlast.2 hover)]
      exact followed_reject_last { r with message := .start header message }
    · rw [if_neg hover, if_neg (mt hlast.1 hover), if_pos (.inl hshort)]
      exact followed_complete { r with message := .start header message } []
  · have hfull := Nat.le_of_not_lt hshort
    have hlast := refusedLast_iff_of_le hread hfull
    have hpacket : (message.take packetSize).length = packetSize := by
      rw [List.length_take]
      omega
    have hread' : CommandHeader.parse? (message.take packetSize) = some header := by
      rw [CommandHeader.parse?_take (by decide) hlong, hread]
    have hstep := bulkOut_of_extends (.first hstate hfree (Nat.le_of_eq hpacket) hread')
    simp only [overlong_of_idle hstate, Message.declared_start, Message.expected_start,
      Message.received_start, hpacket, true_and, Nat.lt_irrefl, false_or] at hstep
    have hcount : packetSize ≤ message.length / packetSize * packetSize :=
      Nat.le_mul_of_pos_left _ (Nat.div_pos hfull (by decide))
    refine ⟨_, _, packets_of_le hfull, ?_⟩
    rw [hstep]
    by_cases hover : maxPayload < header.length ∨ header.length + headerSize < packetSize
    · rw [if_pos hover, if_neg (fun h => by have := hlast.1 h; omega)]
      exact followed_reject { r with message := .start header (message.take packetSize) } _
    rw [if_neg hover]
    by_cases hwhole : packetSize = header.length + headerSize
    · rw [if_pos hwhole, if_neg (fun h => by have := hlast.1 h; omega)]
      exact followed_complete { r with message := .start header (message.take packetSize) } _
    · rw [if_neg hwhole]
      have hrest := followed_rest (r := { r with
        state := .receivingData, message := .start header (message.take packetSize) }) rfl hfree
        (by simp only [Message.received_start, Message.expected_start, hpacket]; omega)
        (message.drop packetSize)
      have hafter : stateAfter 0 (header.length + headerSize) message.length =
          stateAfter (0 + packetSize) (header.length + headerSize) (message.length - packetSize) :=
        stateAfter_of_full hfull
      have hend : stateAfter 0 (header.length + headerSize) message.length =
          if refusedLast message then .lengthError else .idle := by
        rw [stateAfter, Nat.zero_add, Nat.zero_add]
        refine if_congr ?_ rfl rfl
        rw [hlast]
        exact (and_iff_right (by omega)).symm
      rw [← hend, hafter, Nat.zero_add]
      simpa only [Message.received_start, Message.expected_start, Message.slot_start,
        Message.seq_start, hpacket, List.length_drop] using hrest

/-- The exchange of a message is framed, and leaves the endpoints waiting for a packet to discard
if the message is rejected at its last one. -/
theorem exchange_message (hstate : r.state = .idle) (hfree : r.response = none)
    {message : List UInt8} (hlong : headerSize ≤ message.length) :
    Framed message (r.exchange message).1 ∧ (r.exchange message).2.response = none ∧
      (r.exchange message).2.state = if refusedLast message then .lengthError else .idle := by
  obtain ⟨header, hread⟩ := CommandHeader.exists_parse? hlong
  obtain ⟨packet, rest, hpackets, unread, once, own, state_eq⟩ :=
    followed_first hstate hfree hread
  have hfeed := feed_cons r packet rest
  rw [← hpackets] at hfeed
  refine ⟨⟨⟨header, hread, ?_, ?_⟩, ?_⟩, rfl, ?_⟩
  · rw [exchange, hfeed]
    simp only [List.countP_cons]
    rw [Nat.add_comm]
    exact once
  · rw [exchange, hfeed]
    exact own
  · rw [exchange, hfeed]
    exact unread
  · rw [exchange, hfeed]
    exact state_eq

/-- After a message that was rejected at its last packet the next message is not framed: its first
packet is discarded, and if there are others, the second is read as a header. -/
theorem not_framed_of_lengthError (hstate : r.state = .lengthError) (hfree : r.response = none)
    (message : List UInt8) : ¬Framed message (r.exchange message).1 := by
  rintro ⟨⟨-, -, -, response, htaken, -⟩, unread⟩
  obtain ⟨packet, rest, hpackets, hfits, -⟩ := exists_packets_eq_cons message
  have hstep := bulkOut_of_lengthError hstate hfits
  have hfeed := feed_cons r packet rest
  rw [← hpackets, hstep] at hfeed
  rw [exchange, hfeed] at htaken unread
  by_cases hshort : message.length < packetSize
  · rw [packets_of_lt hshort, List.cons.injEq] at hpackets
    rw [← hpackets.2] at htaken
    exact absurd (hfree.symm.trans htaken) nofun
  · rw [packets_of_le (Nat.le_of_not_lt hshort), List.cons.injEq] at hpackets
    rw [← hpackets.2] at htaken unread
    obtain ⟨second, others, hsecond, hfits', -⟩ :=
      exists_packets_eq_cons (message.drop packetSize)
    rw [hsecond] at htaken unread
    by_cases hheader : headerSize ≤ second.length
    · -- the second packet is long enough to be taken for the header of a command
      have hunread := unread _ List.mem_cons_self
      rw [readsHeader, decide_eq_false_iff_not] at hunread
      exact hunread ⟨rfl, by rw [hfree]; rfl, hfits', hheader⟩
    · -- the second packet is the last one, and too short to start a command
      have hlast : (message.drop packetSize).length < packetSize := by
        refine Nat.lt_of_not_le fun hfull => hheader ?_
        rw [packets_of_le hfull, List.cons.injEq] at hsecond
        rw [← hsecond.1, List.length_take, Nat.min_eq_left hfull]
        decide
      rw [packets_of_lt hlast, List.cons.injEq] at hsecond
      rw [← hsecond.2, feed_cons, bulkOut_of_no_header rfl (Nat.lt_of_not_le hheader)] at htaken
      exact absurd (hfree.symm.trans htaken) nofun

/-! ## Any number of messages -/

/-- Messages that are sent from an idle state, with nothing waiting to be read, stay framed exactly
if none but the last of them is rejected at its last packet.  After such a message one more packet
is to be discarded, and that is the first packet of the next message. -/
theorem session_framed_iff (hstate : r.state = .idle) (hfree : r.response = none)
    (messages : List (List UInt8)) (hlong : ∀ message ∈ messages, headerSize ≤ message.length) :
    List.Forall₂ Framed messages (r.session messages).1 ↔
      ∀ message ∈ messages.dropLast, refusedLast message = false := by
  induction messages generalizing r with
  | nil => exact iff_of_true .nil nofun
  | cons message rest ih =>
    obtain ⟨hframed, hnone, hend⟩ :=
      exchange_message hstate hfree (hlong message List.mem_cons_self)
    have hrest := fun other hother => hlong other (List.mem_cons_of_mem message hother)
    have hsession : (r.session (message :: rest)).1 =
        (r.exchange message).1 :: ((r.exchange message).2.session rest).1 := rfl
    rw [hsession, List.forall₂_cons, and_iff_right hframed]
    by_cases hlast : refusedLast message
    · rw [if_pos hlast] at hend
      cases rest with
      | nil => exact iff_of_true .nil nofun
      | cons second others =>
        refine iff_of_false (fun h => ?_) fun h => ?_
        · exact not_framed_of_lengthError hend hnone second (List.forall₂_cons.1 h).1
        · have hkept : refusedLast message = false := h message List.mem_cons_self
          rw [hlast] at hkept
          cases hkept
    · rw [if_neg hlast] at hend
      rw [ih hend hnone hrest]
      cases rest with
      | nil => exact iff_of_true nofun nofun
      | cons second others =>
        rw [List.dropLast_cons_cons, List.forall_mem_cons,
          and_iff_right (Bool.eq_false_iff.2 hlast)]

/-- Two messages that are refused at their first packet, one that is cut short, and one that is
refused at its last packet, but that no message follows. -/
theorem session_framed_of_refusals :
    let r := Reassembler.new ({} : VirtualCard)
    let messages : List (List UInt8) :=
      [(⟨0x6F, 1000, 0, 1, {}⟩ : CommandHeader).bytes ++ List.replicate 54 0,
        (⟨0x6F, 20, 0, 2, {}⟩ : CommandHeader).bytes ++ List.replicate 60 0,
        (⟨0x62, 5, 0, 3, {}⟩ : CommandHeader).bytes ++ [0, 0],
        (⟨0x63, 1000, 0, 4, {}⟩ : CommandHeader).bytes]
    r.state = .idle ∧ r.response = none ∧ (∀ message ∈ messages, headerSize ≤ message.length) ∧
      (∀ message ∈ messages.dropLast, refusedLast message = false) ∧
      List.Forall₂ Framed messages (r.session messages).1 := by
  intro r messages
  have hlong : ∀ message ∈ messages, headerSize ≤ message.length := by decide
  have hkept : ∀ message ∈ messages.dropLast, refusedLast message = false := by decide
  exact ⟨rfl, rfl, hlong, hkept, (session_framed_iff rfl rfl messages hlong).2 hkept⟩

/-- A command to deactivate the card announces 1000 bytes and brings none: it is refused, and the
command after it is discarded without an answer. -/
theorem session_loses_frame :
    let r := Reassembler.new ({} : VirtualCard)
    let messages : List (List UInt8) :=
      [(⟨0x63, 1000, 0, 4, {}⟩ : CommandHeader).bytes, (⟨0x65, 0, 0, 5, {}⟩ : CommandHeader).bytes]
    r.state = .idle ∧ r.response = none ∧ (∀ message ∈ messages, headerSize ≤ message.length) ∧
      (r.session messages).1.map (·.receipts) =
        [[⟨true, .rejected⟩], [⟨false, .discarded⟩]] ∧
      (r.session messages).1.map (·.response.map Response.bytes) =
        [some [0x81, 0, 0, 0, 0, 0, 4, 0x41, 0x08, 0], none] ∧
      ¬List.Forall₂ Framed messages (r.session messages).1 := by
  intro r messages
  have hfirst : packets (⟨0x63, 1000, 0, 4, {}⟩ : CommandHeader).bytes =
      [(⟨0x63, 1000, 0, 4, {}⟩ : CommandHeader).bytes] := packets_of_lt (by decide)
  have hsecond : packets (⟨0x65, 0, 0, 5, {}⟩ : CommandHeader).bytes =
      [(⟨0x65, 0, 0, 5, {}⟩ : CommandHeader).bytes] := packets_of_lt (by decide)
  have hsession : (r.session messages).1 =
      [⟨[⟨true, .rejected⟩], some (refusal r.slot r.card (.start ⟨0x63, 1000, 0, 4, {}⟩ []))⟩,
        ⟨[⟨false, .discarded⟩], none⟩] := by
    simp only [messages, session, exchange, hfirst, hsecond]
    decide
  rw [hsession]
  refine ⟨rfl, rfl, by decide, rfl, by decide, fun hframed => ?_⟩
  obtain ⟨-, hlost⟩ := List.forall₂_cons.1 hframed
  obtain ⟨⟨header, -, hanswers⟩, -⟩ := (List.forall₂_cons.1 hlost).1
  obtain ⟨response, hresponse, -⟩ := hanswers.own
  cases hresponse

end Reassembler

end CardReader.Ccid
