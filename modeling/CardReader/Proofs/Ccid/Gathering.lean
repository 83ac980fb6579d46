import CardReader.Proofs.Ccid.Conduct
import CardReader.Proofs.Ccid.Ledger
import CardReader.Proofs.Ccid.Service

/-!
# Commands that are coming in

While a command is coming in, the endpoints hold no more than its bytes.  What they hold can be
computed from the packets in the journal that were kept since the command began: all of them are
full, they fit into the largest command, and nothing else has happened.  At any other time the
endpoints hold nothing of a command at all.

What is proved here:

* `bulkOut_noting` — a packet that does not complete its command makes no call of the card;
* `gathers_run` — what is held of a command is what the journal says, after any run;
* `abort_feed` — a command that is given up leaves no trace;
* `gathers_new` — the whole of it for every run of a new reader.
-/

namespace CardReader.Ccid

/-! ## What the journal says -/

namespace Entry

/-- The command that is coming in comes to its end, by an answer or without one. -/
def ends : Entry → Bool
  | packet _ outcome _ => outcome.answers
  | aborted | dropped _ => true
  | taken _ | changed => false

/-- The entry shows a packet that was kept for a command that is not complete. -/
def keeps : Entry → Bool
  | packet _ outcome _ => decide (outcome = .needMore)
  | _ => false

/-- The bytes of the command that is coming in, after the entry; `gathered` are those before it. -/
def gathers (gathered : List UInt8) : Entry → List UInt8
  | packet bytes .needMore _ => gathered ++ bytes
  | entry => if entry.ends then [] else gathered

end Entry

/-- The message that comes in with the bytes of a command, whose header has been read, if none of
them is lost. -/
def Message.gathered (header : CommandHeader) (bytes : List UInt8) : Message :=
  { slot := header.slot
    seq := header.seq
    type := header.type
    declared := header.length
    params := header.params
    headerReceived := true
    received := bytes.length
    payload := bytes.drop headerSize }

namespace Message

variable {header : CommandHeader} {bytes packet : List UInt8}

theorem start_of_room (h : bytes.length ≤ maxPayload + headerSize) :
    start header bytes = gathered header bytes := by
  have hroom : (bytes.drop headerSize).length ≤ maxPayload := by
    rw [List.length_drop]
    omega
  simp [start, store, gathered, List.take_of_length_le hroom]

theorem append_gathered (hlong : headerSize ≤ bytes.length)
    (hroom : bytes.length + packet.length ≤ maxPayload + headerSize) :
    (gathered header bytes).append packet = gathered header (bytes ++ packet) := by
  have hpayload : (gathered header bytes).payload.length + packet.length ≤ maxPayload := by
    rw [gathered, List.length_drop]
    omega
  rw [append_of_room hpayload]
  simp [gathered, List.drop_append_of_le_length hlong]

/-- A part of a command that is coming in: its header and full packets, fewer than it announces,
and not a byte of them is lost. -/
structure Partial (message : Message) (bytes : List UInt8) : Prop where
  /-- It is made of the bytes that have come in. -/
  made : ∃ header, CommandHeader.parse? bytes = some header ∧ message = gathered header bytes
  /-- The whole payload will fit. -/
  declared_le : message.declared ≤ maxPayload
  /-- All its packets are full. -/
  full : packetSize ∣ message.received
  /-- One of them at least has come in. -/
  started : 0 < message.received
  /-- One of them at least is missing. -/
  unfinished : message.received < message.expected

variable {message : Message}

theorem Partial.received_eq (h : message.Partial bytes) : message.received = bytes.length := by
  obtain ⟨⟨header, -, rfl⟩, -⟩ := h
  rfl

/-- Four full packets are the most of which a command can need more. -/
theorem Partial.length_le (h : message.Partial bytes) : bytes.length ≤ 4 * packetSize := by
  have hfull := h.full
  have hmore := h.unfinished
  have hdeclared := h.declared_le
  rw [expected] at hmore
  rw [h.received_eq] at hfull hmore
  simp only [packetSize, maxPayload, headerSize] at hfull hmore hdeclared ⊢
  omega

/-- The first packet of a command that is longer. -/
theorem partial_start (hread : CommandHeader.parse? packet = some header)
    (hfull : packet.length = packetSize) (hdeclared : header.length ≤ maxPayload)
    (hmore : packetSize < header.length + headerSize) : (start header packet).Partial packet := by
  have hroom : packet.length ≤ maxPayload + headerSize := by omega
  refine ⟨⟨header, hread, start_of_room hroom⟩, hdeclared, ?_, ?_, ?_⟩
  · simp [hfull]
  · rw [received_start, hfull]
    decide
  · rw [received_start, expected_start, hfull]
    exact hmore

/-- One more packet of a command that is still longer. -/
theorem Partial.append (h : message.Partial bytes) (hfull : packet.length = packetSize)
    (hmore : (message.append packet).received < message.expected) :
    (message.append packet).Partial (bytes ++ packet) := by
  have hdeclared := h.declared_le
  have hwhole := h.full
  have hstarted := h.started
  obtain ⟨⟨header, hread, rfl⟩, -⟩ := h
  have hlong : headerSize ≤ bytes.length := CommandHeader.isSome_parse?.1 (by rw [hread]; rfl)
  -- the packet brings no more than is announced, and what is announced fits
  have hroom : bytes.length + packet.length ≤ maxPayload + headerSize := by
    simp only [gathered, expected, received_append] at hmore hdeclared
    omega
  refine ⟨⟨header, ?_, append_gathered hlong hroom⟩, hdeclared, ?_, ?_, hmore⟩
  · rw [CommandHeader.parse?_append hlong, hread]
  · rw [received_append, hfull]
    exact Nat.dvd_add hwhole (Nat.dvd_refl _)
  · rw [received_append]
    exact Nat.add_pos_left hstarted _

end Message

namespace Reassembler

variable {κ : Type} [SmartCard κ] {r : Reassembler κ} {packet gathered : List UInt8}

/-! ## Nothing happens before a command is complete -/

/-- The endpoints with a card that notes its calls, of which some have been made. -/
def noting (r : Reassembler κ) (calls : List CardCall) : Reassembler (Noted κ) :=
  { state := r.state
    message := r.message
    slot := r.slot
    card := ⟨r.card, calls⟩
    response := r.response }

omit [SmartCard κ] in
theorem extends_noting {message : Message} {calls : List CardCall} (h : r.Extends packet message) :
    (r.noting calls).Extends packet message := by
  cases h with
  | first state_eq free fits read => exact .first state_eq free fits read
  | next state_eq free fits => exact .next state_eq free fits

/-- A packet that does not complete its command makes no call of the card. -/
theorem bulkOut_noting (r : Reassembler κ) (calls : List CardCall) (packet : List UInt8)
    (h : ∀ type, (r.bulkOut packet).1 ≠ .dispatched type) :
    (r.noting calls).bulkOut packet =
      ((r.bulkOut packet).1, (r.bulkOut packet).2.noting calls) := by
  have hfate := fate r packet
  generalize r.bulkOut packet = result at hfate h
  apply bulkOut_of_fate
  cases hfate with
  | oversized long => exact .oversized long
  | early state_ne pending => exact .early state_ne pending
  | runt state_eq free fits unread => exact .runt state_eq free fits unread
  | discarded state_eq fits => exact .discarded state_eq fits
  | rejected piece wrong => exact .rejected (extends_noting piece) wrong
  | dispatched => exact absurd rfl (h _)
  | kept piece right full more => exact .kept (extends_noting piece) right full more

/-- What a packet does that does not complete its command. -/
structure Restrained (r : Reassembler κ) (packet : List UInt8) : Prop where
  /-- If it is ignored, it changes nothing. -/
  ignored : (r.bulkOut packet).1 = .ignored → (r.bulkOut packet).2 = r
  /-- The slot and the card stay as they are. -/
  untouched : (∀ type, (r.bulkOut packet).1 ≠ .dispatched type) →
    (r.bulkOut packet).2.slot = r.slot ∧ (r.bulkOut packet).2.card = r.card
  /-- The card is not called, except that it may be asked whether it is there. -/
  uncalled : (∀ type, (r.bulkOut packet).1 ≠ .dispatched type) →
    (r.noting []).bulkOut packet = ((r.bulkOut packet).1, (r.bulkOut packet).2.noting [])

theorem restrained (r : Reassembler κ) (packet : List UInt8) : r.Restrained packet := by
  refine ⟨fun h => ?_, fun h => ?_, bulkOut_noting r [] packet⟩
  · have hfate := fate r packet
    generalize r.bulkOut packet = result at hfate h
    cases hfate with
    | oversized | early | runt => rfl
    | discarded | rejected | dispatched | kept => cases h
  · have hfate := fate r packet
    generalize r.bulkOut packet = result at hfate h
    cases hfate with
    | oversized | early | runt | discarded | rejected | kept => exact ⟨rfl, rfl⟩
    | dispatched => exact absurd rfl (h _)

/-! ## What is held of a command -/

/-- What the endpoints hold of a command that is coming in is what has been gathered of it. -/
structure Gathers (r : Reassembler κ) (gathered : List UInt8) : Prop where
  /-- There is nothing to hold unless a command is coming in. -/
  nothing : r.state ≠ .receivingData → r.message = {} ∧ gathered = []
  /-- While one is coming in, the last one has been answered and the host has the answer. -/
  something : r.state = .receivingData → r.response = none ∧ r.message.Partial gathered

omit [SmartCard κ] in
theorem gathers_nil (hstate : r.state ≠ .receivingData) (hmessage : r.message = {}) :
    r.Gathers [] :=
  ⟨fun _ => ⟨hmessage, rfl⟩, fun h => absurd h hstate⟩

omit [SmartCard κ] in
/-- A packet that is kept is a full one and goes on with what has been gathered. -/
theorem gathers_kept (h : r.Gathers gathered) {message : Message}
    (piece : r.Extends packet message) (right : ¬r.overlong packet message)
    (full : packet.length = packetSize) (more : message.received < message.expected) :
    Gathers { r with state := .receivingData, message } (gathered ++ packet) := by
  refine ⟨fun hstate => absurd rfl hstate, fun _ => ⟨piece.free, ?_⟩⟩
  cases piece with
  | @first header state_eq free fits read =>
    obtain ⟨-, rfl⟩ := h.nothing (by simp [state_eq])
    rw [overlong_of_idle state_eq, Message.declared_start] at right
    rw [Message.received_start, Message.expected_start] at more
    exact Message.partial_start read full (by omega) (by omega)
  | next state_eq =>
    obtain ⟨-, hpartial⟩ := h.something state_eq
    exact hpartial.append full more

/-- After an event the endpoints still hold what has been gathered. -/
theorem gathers_step (h : r.Gathers gathered) (event : Event κ) :
    (r.step event).2.Gathers ((r.step event).1.gathers gathered) := by
  cases event with
  | packet bytes =>
    have hfate := fate r bytes
    rw [step_packet]
    generalize r.bulkOut bytes = result at hfate
    cases hfate with
    | oversized | early | runt => exact h
    | discarded state_eq =>
      obtain ⟨-, rfl⟩ := h.nothing (by simp [state_eq])
      exact gathers_nil (by simp) rfl
    | rejected => exact gathers_nil (by simp [reject]) rfl
    | dispatched => exact gathers_nil (by simp [complete]) rfl
    | kept piece right full more => exact gathers_kept h piece right full more
  -- nothing is held for the host to take while a command is coming in
  | take => exact ⟨h.nothing, fun hstate => ⟨rfl, (h.something hstate).2⟩⟩
  | abort => exact gathers_nil (by simp [step, abort]) rfl
  | deinit => exact gathers_nil (by simp [step, deinit, abort]) rfl
  | card change => exact ⟨h.nothing, h.something⟩

theorem gathers_run (h : r.Gathers gathered) (events : List (Event κ)) :
    (r.run events).2.Gathers ((r.run events).1.foldl Entry.gathers gathered) := by
  induction events generalizing r gathered with
  | nil => exact h
  | cons event rest ih => exact ih (gathers_step h event)

/-! ## Four packets -/

/-- What has been gathered grows by a full packet if one is kept, and not otherwise. -/
theorem length_gathers (gathered : List UInt8) {event : Event κ}
    (hopen : (r.step event).1.ends = false) :
    ((r.step event).1.gathers gathered).length =
      gathered.length + if (r.step event).1.keeps then packetSize else 0 := by
  cases event with
  | packet bytes =>
    have hfate := fate r bytes
    rw [step_packet] at hopen ⊢
    generalize r.bulkOut bytes = result at hfate hopen
    cases hfate with
    | oversized | early | runt | discarded => rfl
    | rejected | dispatched => cases hopen
    | kept piece right full => simp [Entry.gathers, Entry.keeps, full]
  | take | card => rfl
  | abort | deinit => cases hopen

/-- Until the command comes to its end, all the packets that are kept are gathered. -/
theorem length_gathered (gathered : List UInt8) {events : List (Event κ)}
    (hopen : ∀ entry ∈ (r.run events).1, entry.ends = false) :
    ((r.run events).1.foldl Entry.gathers gathered).length =
      gathered.length + packetSize * (r.run events).1.countP Entry.keeps := by
  induction events generalizing r gathered with
  | nil => rfl
  | cons event rest ih =>
    rw [run_cons] at hopen ⊢
    obtain ⟨hfirst, hrest⟩ := List.forall_mem_cons.1 hopen
    rw [List.foldl_cons, List.countP_cons, ih _ hrest, length_gathers gathered hfirst]
    simp only [packetSize]
    split <;> omega

/-- A command that does not come to its end keeps at most four packets. -/
theorem countP_keeps_le (h : r.Gathers gathered) {events : List (Event κ)}
    (hopen : ∀ entry ∈ (r.run events).1, entry.ends = false) :
    (r.run events).1.countP Entry.keeps ≤ 4 := by
  have hlength := length_gathered gathered hopen
  have hlast := gathers_run h events
  have hle : ((r.run events).1.foldl Entry.gathers gathered).length ≤ 4 * packetSize := by
    by_cases hstate : (r.run events).2.state = .receivingData
    · exact (hlast.something hstate).2.length_le
    · rw [(hlast.nothing hstate).2]
      exact Nat.zero_le _
  simp only [packetSize] at hlength hle
  omega

/-- A part of the journal is the journal of a part of the events. -/
theorem exists_run_of_append {events : List (Event κ)} {earlier later : List Entry}
    (h : (r.run events).1 = earlier ++ later) :
    ∃ before after, events = before ++ after ∧ (r.run before).1 = earlier ∧
      ((r.run before).2.run after).1 = later := by
  induction earlier generalizing r events with
  | nil => exact ⟨[], events, rfl, rfl, h⟩
  | cons entry rest ih =>
    cases events with
    | nil => cases h
    | cons event others =>
      rw [run_cons, List.cons_append, List.cons_eq_cons] at h
      obtain ⟨hentry, hothers⟩ := h
      obtain ⟨before, after, rfl, hbefore, hafter⟩ := ih hothers
      refine ⟨event :: before, after, rfl, ?_, hafter⟩
      rw [run_cons, hentry, hbefore]

/-- Anywhere in the journal, at most four packets are kept until a command comes to its end. -/
theorem countP_streak_le (h : r.Gathers gathered) {events : List (Event κ)} {streak : List Entry}
    (hstreak : streak <:+: (r.run events).1) (hopen : ∀ entry ∈ streak, entry.ends = false) :
    streak.countP Entry.keeps ≤ 4 := by
  obtain ⟨earlier, later, hjournal⟩ := hstreak
  obtain ⟨before, -, -, hbefore, -⟩ := exists_run_of_append hjournal.symm
  obtain ⟨first, second, -, -, hsecond⟩ := exists_run_of_append hbefore
  rw [← hsecond] at hopen ⊢
  exact countP_keeps_le (gathers_run h first) hopen

/-! ## Giving a command up -/

/-- Packets that are kept change what is held of a command and nothing else. -/
theorem abort_bulkOut (h : (r.bulkOut packet).1 = .needMore) :
    (r.bulkOut packet).2.abort = r.abort := by
  have hfate := fate r packet
  generalize r.bulkOut packet = result at hfate h ⊢
  cases hfate with
  | oversized | early | runt | discarded | rejected | dispatched => cases h
  | kept => rfl

theorem abort_feed {packets : List (List UInt8)}
    (h : ∀ receipt ∈ (r.feed packets).1, receipt.outcome = .needMore) :
    (r.feed packets).2.abort = r.abort := by
  induction packets generalizing r with
  | nil => rfl
  | cons packet rest ih =>
    rw [feed_cons] at h ⊢
    obtain ⟨hfirst, hrest⟩ := List.forall_mem_cons.1 h
    rw [ih hrest, abort_bulkOut hfirst]

omit [SmartCard κ] in
/-- There is nothing to give up between two commands. -/
theorem abort_of_idle (h : r.Gathers gathered) (hstate : r.state = .idle) : r.abort = r := by
  obtain ⟨hmessage, -⟩ := h.nothing (by simp [hstate])
  rw [abort, ← hstate, ← hmessage]

/-! ## Every run -/

/-- After every run of a new reader, the endpoints hold what has been gathered of the command that
is coming in, and nothing if there is none.  A packet that does not complete its command leaves the
slot and the card alone; at most four packets are kept until a command comes to its end; and a
command that is given up before that leaves no trace. -/
theorem gathers_new (card : κ) (events : List (Event κ)) :
    let journal := ((new card).run events).1
    let r := ((new card).run events).2
    r.Gathers (journal.foldl Entry.gathers []) ∧
      (∀ packet, r.Restrained packet) ∧
      (∀ streak, streak <:+: journal → (∀ entry ∈ streak, entry.ends = false) →
        streak.countP Entry.keeps ≤ 4) ∧
      ∀ packets, r.state = .idle →
        (∀ receipt ∈ (r.feed packets).1, receipt.outcome = .needMore) →
        (r.feed packets).2.abort = r := by
  intro journal r
  have hnew : (new card).Gathers [] := gathers_nil (by simp [new]) rfl
  have hgathers : r.Gathers (journal.foldl Entry.gathers []) := gathers_run hnew events
  refine ⟨hgathers, restrained r, fun streak => countP_streak_le hnew, ?_⟩
  intro packets hidle hkept
  rw [abort_feed hkept, abort_of_idle hgathers hidle]

/-- Four packets of a command of the largest payload are kept.  A packet that is too long for the
endpoint would change nothing, and one that is too long for the command would leave the slot and
the card alone; if the command is given up instead, it leaves no trace. -/
theorem gathers_largest :
    let r := new ({} : VirtualCard)
    let header : CommandHeader := ⟨0x6F, 261, 0, 7, {}⟩
    let packets := [header.bytes ++ List.replicate 54 0xA5, List.replicate 64 1,
      List.replicate 64 2, List.replicate 64 3]
    let run := r.run (packets.map .packet)
    run.2.state = .receivingData ∧ run.2.message.Partial packets.flatten ∧
      (∀ entry ∈ run.1, entry.ends = false) ∧ run.1.countP Entry.keeps = 4 ∧
      (run.2.bulkOut (List.replicate 65 4)).2 = run.2 ∧
      (run.2.bulkOut (List.replicate 64 4)).1 = .rejected ∧
      (run.2.bulkOut (List.replicate 64 4)).2.slot = run.2.slot ∧
      (∀ receipt ∈ (r.feed packets).1, receipt.outcome = .needMore) ∧
      (r.feed packets).2.abort = r := by
  intro r header packets run
  obtain ⟨hgathers, hrestrained, hstreak, -⟩ :=
    gathers_new ({} : VirtualCard) (packets.map .packet)
  obtain ⟨-, -, -, hgivenUp⟩ := gathers_new ({} : VirtualCard) []
  have hstate : run.2.state = .receivingData := by decide
  have hopen : ∀ entry ∈ run.1, entry.ends = false := by decide
  have hfour : run.1.countP Entry.keeps = 4 :=
    Nat.le_antisymm (hstreak run.1 List.infix_rfl hopen) (by decide)
  have hbytes : run.1.foldl Entry.gathers [] = packets.flatten := by decide +kernel
  have hpartial : run.2.message.Partial packets.flatten := by
    rw [← hbytes]
    exact (hgathers.something hstate).2
  have hignored : (run.2.bulkOut (List.replicate 65 4)).1 = .ignored := by decide
  have hrejected : (run.2.bulkOut (List.replicate 64 4)).1 = .rejected := by decide
  have hundone : ∀ type, (run.2.bulkOut (List.replicate 64 4)).1 ≠ .dispatched type := by
    rw [hrejected]
    nofun
  have hslot := ((hrestrained _).untouched hundone).1
  have hkept : ∀ receipt ∈ (r.feed packets).1, receipt.outcome = .needMore := by decide
  exact ⟨hstate, hpartial, hopen, hfour, (hrestrained _).ignored hignored, hrejected, hslot, hkept,
    hgivenUp packets rfl hkept⟩

end Reassembler

end CardReader.Ccid
