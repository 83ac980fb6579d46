import CardReader.Ccid.VirtualCard
import CardReader.Proofs.Ccid.Intent

/-!
# Protocol parameters that come back

The parameters of a slot are at any time a block that the reader would take from a host: it starts
with one, activation and reset restore it, and whatever a host sets has been read from a block.  A
host can therefore ask for the parameters and set them again from the answer, and nothing changes.

What is proved here:

* `eq_of_parse` — a block is read as the protocol and the bytes that it is;
* `valid_handle` and `valid_life` — the parameters stay valid, whatever happens to the slot;
* `dispatch_of_asks` and `dispatch_of_restores` — asking for the parameters and setting them again;
* `parameters_restored` — the whole of it for every slot that started out new.
-/

namespace CardReader.Ccid

namespace ProtocolParams

variable {protocol : UInt8} {data : List UInt8} {params : ProtocolParams}

/-- The reader would take the block from a host. -/
def Valid (params : ProtocolParams) : Prop := parse params.protocol params.bytes = .ok params

theorem valid_default : default.Valid := rfl

/-- A block is read as the protocol and the bytes that it is. -/
theorem eq_of_parse (h : parse protocol data = .ok params) :
    params.protocol = protocol ∧ params.bytes = data := by
  unfold parse at h
  -- a block of either protocol passes its checks one by one, and is kept byte for byte
  split at h
  · rename_i hprotocol
    split at h
    · obtain ⟨_, -, h⟩ := Slot.bind_eq_ok h
      obtain ⟨_, -, h⟩ := Slot.bind_eq_ok (Slot.ite_eq_ok h)
      cases h
      exact ⟨hprotocol.symm, rfl⟩
    · cases h
  split at h
  · rename_i hprotocol
    split at h
    · obtain ⟨_, -, h⟩ := Slot.bind_eq_ok h
      obtain ⟨_, -, h⟩ := Slot.bind_eq_ok (Slot.ite_eq_ok h)
      cases Slot.ite_eq_ok (Slot.ite_eq_ok h)
      exact ⟨hprotocol.symm, rfl⟩
    · cases h
  · cases h

theorem valid_of_parse (h : parse protocol data = .ok params) : params.Valid := by
  obtain ⟨rfl, rfl⟩ := eq_of_parse h
  exact h

/-- A block of parameters fits a response. -/
theorem length_bytes_le (params : ProtocolParams) : params.bytes.length ≤ maxPayload := by
  cases params <;> simp [bytes, maxPayload]

end ProtocolParams

namespace Slot

variable {κ : Type} [SmartCard κ] {message : Message} {slot : Slot} {card : κ}

/-! ## Parameters stay valid -/

theorem params_granted (slot : Slot) (call : CardCall) (reply : CardReply) :
    (slot.granted call reply).params = slot.params ∨
      (slot.granted call reply).params = .default := by
  cases call with
  | powerOn voltage room => exact .inr rfl
  | powerOff => exact .inl rfl
  | transmit apdu room => exact .inl rfl
  | setClock running => exact .inl rfl
  | setRate clock rate =>
    cases reply with
    | rates clock rate => exact .inl rfl
    | done => exact .inl rfl
    | data bytes => exact .inl rfl

theorem params_refused (slot : Slot) (call : CardCall) :
    (slot.refused call).params = slot.params := by
  cases call <;> rfl

/-- A command leaves valid parameters valid. -/
theorem valid_handle (h : slot.params.Valid) (message : Message) (card : κ) :
    (handle message slot card).2.1.params.Valid := by
  rw [snd_handle, perform_eq]
  cases hintent : intent message slot card with
  | error error => exact h
  | ok errand =>
    have hsuits := suits_of_intent hintent
    cases errand with
    | nothing => exact h
    | parameters params =>
      cases hsuits with
      | reset command => exact ProtocolParams.valid_default
      | set command read => exact ProtocolParams.valid_of_parse read
    | call call =>
      simp only [carryOut, fulfil]
      rcases call.make card with ⟨error | reply, after⟩
      · show (slot.refused call).params.Valid
        rw [params_refused]
        exact h
      · show (slot.granted call reply).params.Valid
        rcases params_granted slot call reply with hsame | hdefault
        · rw [hsame]
          exact h
        · rw [hdefault]
          exact ProtocolParams.valid_default

theorem params_noticing (slot : Slot) (card : κ) : (slot.noticing card).params = slot.params := by
  unfold noticing
  split <;> rfl

end Slot

/-! ## The life of a slot -/

/-- What can happen to a slot and its card. -/
inductive Turn (κ : Type) where
  /-- A message is carried out. -/
  | command (message : Message)
  /-- Something happens to the card. -/
  | card (change : κ → κ)

namespace Slot

variable {κ : Type} [SmartCard κ] {message : Message} {slot : Slot} {card : κ}

/-- What a turn leaves. -/
def turn (state : Slot × κ) : Turn κ → Slot × κ
  | .command message => (dispatch message state.1 state.2).2
  | .card change => (state.1, change state.2)

/-- What a new slot and its card come to. -/
def life (card : κ) (turns : List (Turn κ)) : Slot × κ := turns.foldl turn ({}, card)

theorem valid_turn {state : Slot × κ} (h : state.1.params.Valid) (next : Turn κ) :
    (turn state next).1.params.Valid := by
  cases next with
  | card change => exact h
  | command message =>
    refine valid_handle ?_ message state.2
    rw [← params_noticing state.1 state.2] at h
    exact h

theorem valid_foldl {state : Slot × κ} (h : state.1.params.Valid) (turns : List (Turn κ)) :
    (turns.foldl turn state).1.params.Valid := by
  induction turns generalizing state with
  | nil => exact h
  | cons next rest ih => exact ih (valid_turn h next)

/-- The parameters of a slot are always valid. -/
theorem valid_life (card : κ) (turns : List (Turn κ)) : (life card turns).1.params.Valid :=
  valid_foldl ProtocolParams.valid_default turns

/-! ## Asking for parameters and setting them again -/

/-- The message asks for the parameters, as it should. -/
structure Asks (message : Message) : Prop where
  command : message.command? = some .getParameters
  slot_eq : message.slot = 0
  declared_eq : message.declared = 0
  params_eq : message.params = ⟨0, 0, 0⟩

/-- The message sets the parameters that an answer shows, as it should. -/
structure Restores (message : Message) (answer : Response) : Prop where
  command : message.command? = some .setParameters
  slot_eq : message.slot = 0
  /-- The protocol is the specific byte of the answer, -/
  params_eq : message.params = ⟨answer.header.specific, 0, 0⟩
  /-- and the payload is its data. -/
  payload_eq : message.payload = answer.bytes.drop headerSize
  declared_eq : message.declared = message.payload.length
  received_eq : message.received = message.expected

theorem checkSlot_of_eq (h : message.slot = 0) : checkSlot message = .ok () := by
  simp [checkSlot, h, slotCount]

theorem checkPresent_of_present (hpresent : SmartCard.present card = true) :
    checkPresent card = .ok () := by
  simp [checkPresent, hpresent]

theorem dispatch_of_present (hpresent : SmartCard.present card = true) (message : Message)
    (slot : Slot) : dispatch message slot card = handle message slot card := by
  have hseen : dispatch message slot card = handle message (slot.noticing card) card := rfl
  rw [hseen, noticing, if_pos hpresent]

/-- A response that did not fail shows the data that it is offered. -/
theorem drop_bytes_parameters (echo : Echo) (icc protocol : UInt8) (params : ProtocolParams) :
    (Response.parameters echo icc noError protocol params.bytes).bytes.drop headerSize =
      params.bytes := by
  rw [Response.drop_bytes]
  simp [Response.parameters, Response.build, List.take_of_length_le params.length_bytes_le]

/-- The answer shows the parameters, and nothing changes. -/
theorem dispatch_of_asks (hpresent : SmartCard.present card = true) (h : Asks message)
    (slot : Slot) : ∃ answer, dispatch message slot card = (answer, slot, card) ∧
      answer.failed = false ∧ answer.header.specific = slot.params.protocol ∧
      answer.bytes.drop headerSize = slot.params.bytes := by
  have hempty : checkNoData message = .ok () := by simp [checkNoData, h.declared_eq]
  have hzero : checkReserved3 message = .ok () := by simp [checkReserved3, h.params_eq]
  have hchecked : getParameters message card = .ok () := by
    rw [getParameters, checkSlot_of_eq h.slot_eq, hempty, hzero, checkPresent_of_present hpresent]
    rfl
  have hpass : (perform message slot card).1 = .ok () := by
    simp only [perform, h.command]
    exact hchecked
  have hfailed := failed_of_perform_ok hpass
  have hhandle : handle message slot card =
      (.parameters ⟨message.slot, message.seq⟩ (slot.iccStatus card) noError slot.params.protocol
        slot.params.bytes, slot, card) := by
    simp only [handle, h.command, hchecked]
    rfl
  rw [dispatch_of_present hpresent, hhandle]
  rw [hhandle] at hfailed
  refine ⟨_, rfl, hfailed, rfl, ?_⟩
  exact drop_bytes_parameters _ _ _ _

/-- Parameters that are set again are what they were, and nothing changes. -/
theorem dispatch_of_restores (hpresent : SmartCard.present card = true)
    (hvalid : slot.params.Valid) {answer : Response}
    (hspecific : answer.header.specific = slot.params.protocol)
    (hdata : answer.bytes.drop headerSize = slot.params.bytes) (h : Restores message answer) :
    (dispatch message slot card).1.failed = false ∧
      (dispatch message slot card).2 = (slot, card) := by
  have hpayload : message.payload = slot.params.bytes := h.payload_eq.trans hdata
  have hroom := slot.params.length_bytes_le
  have hconsistent : message.lengthConsistent = true := by
    simp [Message.lengthConsistent, h.declared_eq, h.received_eq]
  have hchecked : checkData message = .ok () := by
    rw [← hpayload, ← h.declared_eq] at hroom
    simp [checkData, hconsistent, Nat.not_lt.2 hroom]
  have hread : ProtocolParams.parse message.params.first message.payload = .ok slot.params := by
    rw [h.params_eq, hspecific, hpayload]
    exact hvalid
  have hzero : checkLastTwo message .badReserved2 = .ok () := by
    simp [checkLastTwo, h.params_eq]
  have hset : setParameters message slot card = (.ok (), slot, card) := by
    rw [setParameters, checkSlot_of_eq h.slot_eq, checkPresent_of_present hpresent, hzero,
      hchecked, hread]
    rfl
  have hperform : perform message slot card = (.ok (), slot, card) := by
    simp only [perform, h.command]
    exact hset
  have hafter := snd_handle message slot card
  rw [dispatch_of_present hpresent, hafter, hperform]
  exact ⟨failed_of_perform_ok (congrArg Prod.fst hperform), rfl⟩

/-- The parameters of a slot that started out new are at any time a block that is read as they are.
With a card a host can ask for them and set them again from the answer, and nothing changes.  A
block is never read as anything but what it is. -/
theorem parameters_restored (card : κ) (turns : List (Turn κ)) :
    let state := life card turns
    ProtocolParams.parse state.1.params.protocol state.1.params.bytes = .ok state.1.params ∧
      (SmartCard.present state.2 = true → ∀ get, Asks get →
        ∃ answer, dispatch get state.1 state.2 = (answer, state) ∧ answer.failed = false ∧
          ∀ set, Restores set answer →
            (dispatch set state.1 state.2).1.failed = false ∧
              (dispatch set state.1 state.2).2 = state) ∧
      ∀ protocol data params, ProtocolParams.parse protocol data = .ok params →
        params.protocol = protocol ∧ params.bytes = data := by
  intro state
  have hvalid : state.1.params.Valid := valid_life card turns
  refine ⟨hvalid, ?_, fun protocol data params => ProtocolParams.eq_of_parse⟩
  intro hpresent get hget
  obtain ⟨answer, hanswer, hfailed, hspecific, hdata⟩ := dispatch_of_asks hpresent hget state.1
  refine ⟨answer, hanswer, hfailed, ?_⟩
  intro set hset
  exact dispatch_of_restores hpresent hvalid hspecific hdata hset

/-- A card is activated and the block protocol set; its parameters are asked for, and set again
after they were changed. -/
theorem parameters_restored_of_block_protocol :
    let command (type : UInt8) (first : UInt8) (payload : List UInt8) : Message :=
      { type, params := ⟨first, 0, 0⟩, payload, declared := payload.length, headerReceived := true,
        received := headerSize + payload.length }
    let block : List UInt8 := [0x96, 0x11, 0x00, 0x45, 0x00, 0xFE, 0x00]
    let state := life ({} : VirtualCard)
      [.command (command 0x62 0x00 []), .command (command 0x61 0x01 block)]
    let get := command 0x6C 0x00 []
    let answer := (dispatch get state.1 state.2).1
    let set := command 0x61 0x01 block
    SmartCard.present state.2 = true ∧ Asks get ∧ Restores set answer ∧
      answer.failed = false ∧ answer.header.specific = 0x01 ∧
      answer.bytes.drop headerSize = block ∧
      (dispatch set state.1 state.2).1.failed = false ∧
      (dispatch set state.1 state.2).2 = state ∧
      state.1.params = .t1 0x96 0x11 0x00 0x45 0x00 0xFE 0x00 := by
  intro command block state get answer set
  have hpresent : SmartCard.present state.2 = true := by decide
  have hget : Asks get := ⟨by decide, rfl, rfl, rfl⟩
  have hset : Restores set answer :=
    ⟨by decide, rfl, by decide, by decide, by decide, by decide⟩
  obtain ⟨-, hserved, -⟩ := parameters_restored ({} : VirtualCard)
    [.command (command 0x62 0x00 []), .command (command 0x61 0x01 block)]
  obtain ⟨shown, hshown, hfailed, hrestored⟩ := hserved hpresent get hget
  obtain rfl : answer = shown := congrArg Prod.fst hshown
  obtain ⟨hok, hsame⟩ := hrestored set hset
  exact ⟨hpresent, hget, hset, hfailed, by decide, by decide, hok, hsame, by decide⟩

end Slot

end CardReader.Ccid
