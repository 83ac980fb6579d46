import CardReader.Ccid.VirtualCard
import CardReader.Proofs.Ccid.Answer
import CardReader.Proofs.Ccid.Exchange

/-!
# Messages of the wrong length

A short packet ends a message even if less has come in than its header announces, and a single
short packet may bring more than that.  Such a message is carried out like any other, and it is
left to its command to find fault with it.  A command with a payload always does.  A command
without payload looks at the header at most, and several do not even look there: those act as if
the message had come without a payload.

What is proved here:

* `fails_of_measured` — the commands that see the wrong length fail and change nothing;
* `dispatch_bare` — the others do what they do with the header alone;
* `dispatched_of_mismatch` — so every message of the wrong length that is carried out has no
  effect, or the effect of its header alone.
-/

namespace CardReader.Ccid

namespace Message

/-- The command notices if the message has the wrong length: one with a payload compares its header
with what has come in, and some without payload refuse a header that announces one. -/
def measured (message : Message) : Bool :=
  match message.command? with
  | some .powerOff | some .getSlotStatus | some .iccClock | some .abort => false
  | some .powerOn | some .getParameters | some .resetParameters => message.declared != 0
  | some .xfrBlock | some .setParameters | some .setDataRate => true
  | some .escape | some .t0Apdu | some .secure | some .mechanical | none => true

/-- The message as it would have come with its header alone. -/
def bare (message : Message) : Message :=
  { message with declared := 0, received := headerSize, payload := [] }

variable {message : Message}

theorem lengthConsistent_of_mismatch (h : message.received ≠ message.expected) :
    message.lengthConsistent = false := by
  rw [lengthConsistent, beq_eq_false_iff_ne.2 h, Bool.and_false]

end Message

namespace Slot

variable {κ : Type} [SmartCard κ] {α β : Type} {message : Message} {slot : Slot} {card : κ}

/-! ## Commands that see the wrong length -/

/-- The step fails. -/
def Fails (step : Except SlotError α) : Prop := ∃ error, step = .error error

theorem fails_bind_left {step : Except SlotError α} (h : Fails step)
    (next : α → Except SlotError β) : Fails (step >>= next) := by
  obtain ⟨error, rfl⟩ := h
  exact ⟨error, rfl⟩

theorem fails_bind_right (step : Except SlotError α) {next : α → Except SlotError β}
    (h : ∀ value, Fails (next value)) : Fails (step >>= next) := by
  cases step with
  | ok value => exact h value
  | error error => exact ⟨error, rfl⟩

theorem fails_checkNoData (h : message.declared ≠ 0) : Fails (checkNoData message) :=
  ⟨_, if_pos h⟩

theorem fails_checkData (h : message.received ≠ message.expected) : Fails (checkData message) :=
  ⟨_, if_pos (.inr (Message.lengthConsistent_of_mismatch h))⟩

theorem fails_notSupported : Fails (notSupported message) :=
  fails_bind_right _ fun _ => ⟨_, rfl⟩

/-- What is checked before the length does not help a message of the wrong length. -/
theorem fails_checks (h : message.received ≠ message.expected)
    (first second third : Except SlotError Unit) (rest : Except SlotError α) :
    Fails (do first; second; third; checkData message; rest) := by
  refine fails_bind_right first fun _ => ?_
  refine fails_bind_right second fun _ => ?_
  refine fails_bind_right third fun _ => ?_
  exact fails_bind_left (fails_checkData h) _

theorem fails_getParameters (h : message.declared ≠ 0) (card : κ) :
    Fails (getParameters message card) :=
  fails_bind_right _ fun _ => fails_bind_left (fails_checkNoData h) _

theorem fails_selectVoltage (h : message.declared ≠ 0) : Fails (selectVoltage message) :=
  fails_bind_right _ fun _ => fails_bind_left (fails_checkNoData h) _

theorem powerOn_of_declared (h : message.declared ≠ 0) (slot : Slot) (card : κ) :
    ∃ error, powerOn message slot card = (.error error, slot, card) := by
  obtain ⟨error, herror⟩ := fails_bind_left (fails_selectVoltage h)
    fun voltage => (do checkPresent card; return voltage)
  exact ⟨error, by rw [powerOn, herror]⟩

theorem resetParameters_of_declared (h : message.declared ≠ 0) (slot : Slot) (card : κ) :
    ∃ error, resetParameters message slot card = (.error error, slot, card) := by
  obtain ⟨error, herror⟩ := fails_getParameters h card
  exact ⟨error, by rw [resetParameters, herror]⟩

theorem xfrBlock_of_mismatch (h : message.received ≠ message.expected) (slot : Slot) (card : κ) :
    ∃ error, xfrBlock message slot card = (.error error, slot, card) := by
  obtain ⟨error, herror⟩ := fails_checks h (checkSlot message) (checkPresent card)
    (checkActive slot) (checkLastTwo message .badLevel)
  exact ⟨error, by rw [xfrBlock, herror]⟩

theorem setParameters_of_mismatch (h : message.received ≠ message.expected) (slot : Slot)
    (card : κ) : ∃ error, setParameters message slot card = (.error error, slot, card) := by
  obtain ⟨error, herror⟩ := fails_checks h (checkSlot message) (checkPresent card)
    (checkLastTwo message .badReserved2)
    (ProtocolParams.parse message.params.first message.payload)
  exact ⟨error, by rw [setParameters, herror]⟩

theorem setDataRate_of_mismatch (h : message.received ≠ message.expected) (slot : Slot)
    (card : κ) : ∃ error, setDataRate message slot card = (.error error, slot, card) := by
  obtain ⟨error, herror⟩ := fails_checks h (checkSlot message) (checkPresent card)
    (checkReserved3 message) (requestedRate message.payload)
  exact ⟨error, by rw [setDataRate, herror]⟩

/-- A command that sees the wrong length fails and leaves the slot and the card alone. -/
theorem fails_of_measured (hmeasured : message.measured = true)
    (hlength : message.received ≠ message.expected) (slot : Slot) (card : κ) :
    ∃ error, perform message slot card = (.error error, slot, card) := by
  have hrefused : ∃ error, (notSupported message, slot, card) = (.error error, slot, card) := by
    have hfails : Fails (notSupported message) := fails_notSupported
    rcases hfails with ⟨error, herror⟩
    exact ⟨error, by rw [herror]⟩
  unfold perform
  unfold Message.measured at hmeasured
  cases hcommand : message.command? with
  | none => exact ⟨_, rfl⟩
  | some command =>
    rw [hcommand] at hmeasured
    cases command with
    | powerOff | getSlotStatus | iccClock | abort => cases hmeasured
    | escape | t0Apdu | secure | mechanical => exact hrefused
    | powerOn =>
      obtain ⟨error, herror⟩ := powerOn_of_declared (bne_iff_ne.1 hmeasured) slot card
      exact ⟨error, by rw [herror]; rfl⟩
    | getParameters =>
      obtain ⟨error, herror⟩ := fails_getParameters (bne_iff_ne.1 hmeasured) card
      exact ⟨error, by rw [herror]⟩
    | resetParameters => exact resetParameters_of_declared (bne_iff_ne.1 hmeasured) slot card
    | xfrBlock =>
      obtain ⟨error, herror⟩ := xfrBlock_of_mismatch hlength slot card
      exact ⟨error, by rw [herror]; rfl⟩
    | setParameters => exact setParameters_of_mismatch hlength slot card
    | setDataRate => exact setDataRate_of_mismatch hlength slot card

/-- A message with a command that sees the wrong length is answered by a failure, and nothing
changes but that the slot of an absent card is deactivated. -/
theorem dispatch_of_measured (hmeasured : message.measured = true)
    (hlength : message.received ≠ message.expected) (slot : Slot) (card : κ) :
    (dispatch message slot card).1.failed ∧
      (dispatch message slot card).2 = (slot.noticing card, card) := by
  obtain ⟨error, herror⟩ := fails_of_measured hmeasured hlength (slot.noticing card) card
  have hafter := snd_handle message (slot.noticing card) card
  have hanswers := answers_handle message (slot.noticing card) card
  rw [herror] at hafter hanswers
  exact ⟨hanswers.failed_iff.2 ⟨error, rfl⟩, hafter⟩

/-! ## Commands that do not see it -/

/-- A command that does not see the wrong length does what it does with its header alone. -/
theorem dispatch_bare (h : message.measured = false) (slot : Slot) (card : κ) :
    dispatch message slot card = dispatch message.bare slot card := by
  unfold Message.measured at h
  cases hcommand : message.command? with
  | none => simp only [hcommand] at h; cases h
  | some command =>
    have hbare : message.bare.command? = some command := hcommand
    rw [hcommand] at h
    unfold dispatch handle
    rw [hcommand, hbare]
    cases command with
    | powerOff | getSlotStatus | iccClock | abort => rfl
    | powerOn | getParameters | resetParameters =>
      -- a message that announces nothing differs from its header in what came in alone
      have hdeclared : message.declared = 0 := by simpa using h
      obtain ⟨_, _, _, _, _, _, _, _⟩ := message
      cases hdeclared
      rfl
    | _ => cases h

end Slot

/-! ## Messages that are carried out -/

namespace Reassembler

variable {κ : Type} [SmartCard κ] {r : Reassembler κ} {packet : List UInt8} {message : Message}

/-- A packet after which a command has been carried out has completed it. -/
theorem bulkOut_of_dispatched {type : UInt8} (hdone : (r.bulkOut packet).1 = .dispatched type) :
    ∃ message, r.Extends packet message ∧ r.bulkOut packet = complete { r with message } := by
  have hfate := fate r packet
  generalize r.bulkOut packet = result at hfate hdone
  cases hfate with
  | oversized | early | runt | discarded | rejected | kept => cases hdone
  | dispatched piece => exact ⟨_, piece, rfl⟩

/-- Whatever message is carried out is answered, and if it has the wrong length, it fails and
changes nothing if its command sees the length, but that the slot of an absent card is
deactivated.  Otherwise it is answered, and has effect, as if its header had come alone. -/
theorem dispatched_of_mismatch {type : UInt8} (hdone : (r.bulkOut packet).1 = .dispatched type) :
    ∃ message response, r.Extends packet message ∧
      (r.bulkOut packet).2.response = some response ∧
      (message.received ≠ message.expected →
        (message.measured = true → response.failed ∧
          (r.bulkOut packet).2.slot = r.slot.noticing r.card ∧
          (r.bulkOut packet).2.card = r.card) ∧
        (message.measured = false →
          (response, (r.bulkOut packet).2.slot, (r.bulkOut packet).2.card) =
            Slot.dispatch message.bare r.slot r.card)) := by
  obtain ⟨message, hextends, hcomplete⟩ := bulkOut_of_dispatched hdone
  rw [hcomplete, complete_eq]
  refine ⟨message, _, hextends, rfl, ?_⟩
  intro hlength
  refine ⟨?_, ?_⟩
  · intro hmeasured
    obtain ⟨hfailed, hsame⟩ := Slot.dispatch_of_measured hmeasured hlength r.slot r.card
    exact ⟨hfailed, congrArg Prod.fst hsame, congrArg Prod.snd hsame⟩
  · intro hmeasured
    exact Slot.dispatch_bare hmeasured r.slot r.card

/-- An APDU of which three bytes are missing is refused, and a command to deactivate the card that
announces five bytes and brings none acts like one that announces none. -/
theorem dispatched_cut_short :
    let r : Reassembler VirtualCard := { slot := { powered := true }, card := { powered := true } }
    let apdu := (⟨0x6F, 5, 0, 1, {}⟩ : CommandHeader).bytes ++ [0, 0]
    let off := (⟨0x63, 5, 0, 2, {}⟩ : CommandHeader).bytes
    let command := Message.start ⟨0x63, 5, 0, 2, {}⟩ off
    ((r.bulkOut apdu).1 = .dispatched 0x6F ∧ ∃ response,
      (r.bulkOut apdu).2.response = some response ∧ response.failed ∧
        (r.bulkOut apdu).2.slot = r.slot) ∧
    (r.bulkOut off).1 = .dispatched 0x63 ∧ ∃ response,
      (r.bulkOut off).2.response = some response ∧
        response = (Slot.dispatch command.bare r.slot r.card).1 := by
  intro r apdu off command
  have hidle : r.state ≠ .receivingData := by decide
  have happdu : (r.bulkOut apdu).1 = .dispatched 0x6F := by decide
  have hoff : (r.bulkOut off).1 = .dispatched 0x63 := by decide
  refine ⟨⟨happdu, ?_⟩, hoff, ?_⟩
  · obtain ⟨message, response, hextends, hresponse, hmismatch⟩ := dispatched_of_mismatch happdu
    cases hextends with
    | first state_eq free fits read =>
      cases read
      obtain ⟨hfailed, hslot, -⟩ := (hmismatch (by decide)).1 rfl
      exact ⟨response, hresponse, hfailed, hslot⟩
    | next state_eq => exact absurd state_eq hidle
  · obtain ⟨message, response, hextends, hresponse, hmismatch⟩ := dispatched_of_mismatch hoff
    cases hextends with
    | first state_eq free fits read =>
      cases read
      have hunseen := (hmismatch (by decide)).2 rfl
      exact ⟨response, hresponse, congrArg Prod.fst hunseen⟩
    | next state_eq => exact absurd state_eq hidle

/-- A card is activated, and then deactivated by a command of the wrong length, which does not
fail. -/
theorem deactivated_by_mismatch :
    let on := (⟨0x62, 0, 0, 0, {}⟩ : CommandHeader).bytes
    let off := (⟨0x63, 5, 0, 1, {}⟩ : CommandHeader).bytes
    let r := ((new ({} : VirtualCard)).bulkOut on).2.bulkInComplete.2
    let after := (r.bulkOut off).2
    (∃ message, r.Extends off message ∧ message.received ≠ message.expected) ∧
      (r.bulkOut off).1 = .dispatched 0x63 ∧
      after.response.map Response.failed = some false ∧
      r.slot.powered = true ∧ r.card.powered = true ∧
      after.slot.powered = false ∧ after.card.powered = false := by
  intro on off r after
  refine ⟨⟨_, .first rfl rfl (by decide) rfl, by decide⟩, ?_⟩
  decide

end Reassembler

end CardReader.Ccid
