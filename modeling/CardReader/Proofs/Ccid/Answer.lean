import CardReader.Proofs.Ccid.Packets

/-!
# Answers

Whatever a host sends and whatever the card does, a command is answered by one well-formed
response: it goes to the slot and number of the command, it is of the family that belongs to the
command, and its bytes say how the command ended.

One code needs care.  A command that is not supported fails with the code zero, which in a
response also stands for success, so that only the status byte tells the two apart, and data is
kept back by the error byte alone.  The commands that always have data to report never fail with
that code (`Supported`).

What is proved here:

* `reports_handle` — every command is answered by a response of its family, built from what became
  of it;
* `answers_handle` — such a response is well formed;
* `dispatch_answers` — so is the answer to every command, with any card.
-/

namespace CardReader.Ccid

/-! ## Families -/

/-- The message type of the answer to a command of a message type. -/
def answerType (type : UInt8) : UInt8 :=
  if type = 0x62 ∨ type = 0x6F ∨ type = 0x69 then 0x80
  else if type = 0x6C ∨ type = 0x6D ∨ type = 0x61 then 0x82
  else if type = 0x6B then 0x83
  else if type = 0x73 then 0x84
  else 0x81

/-- The family of the answer to a command, or to a message that is none. -/
def familyOf : Option CommandType → ResponseType
  | some .powerOn | some .xfrBlock | some .secure => .dataBlock
  | some .getParameters | some .resetParameters | some .setParameters => .parameters
  | some .escape => .escape
  | some .setDataRate => .dataRate
  | some .powerOff | some .getSlotStatus | some .iccClock | some .t0Apdu | some .mechanical
  | some .abort | none => .slotStatus

theorem CommandType.ofCode?_code (command : CommandType) :
    ofCode? command.code = some command := by
  cases command <;> rfl

theorem CommandType.code_of_ofCode? {code : UInt8} {command : CommandType}
    (h : ofCode? code = some command) : command.code = code := by
  have hfound := List.find?_some h
  exact eq_of_beq hfound

theorem code_familyOf (message : Message) :
    (familyOf message.command?).code = answerType message.type := by
  unfold answerType
  cases hcommand : message.command? with
  | some command =>
    have hcode := CommandType.code_of_ofCode? hcommand
    rw [← hcode]
    cases command <;> rfl
  | none =>
    -- a message type with an answer of another family is that of a command
    have hother (command : CommandType) : message.type ≠ command.code := by
      intro htype
      rw [Message.command?, htype, CommandType.ofCode?_code] at hcommand
      cases hcommand
    rw [if_neg, if_neg, if_neg, if_neg]
    · rfl
    · exact hother .setDataRate
    · exact hother .escape
    · rintro (htype | htype | htype)
      · exact hother .getParameters htype
      · exact hother .resetParameters htype
      · exact hother .setParameters htype
    · rintro (htype | htype | htype)
      · exact hother .powerOn htype
      · exact hother .xfrBlock htype
      · exact hother .secure htype

/-! ## Bytes of a response -/

/-- The header of a response is read back as it was written. -/
theorem ResponseHeader.parse?_bytes {header : ResponseHeader} (h : header.length < lengthLimit)
    (rest : List UInt8) : parse? (header.bytes ++ rest) = some header := by
  simp [parse?, ResponseHeader.bytes, bytes32, number32_bytes h]

namespace Response

theorem length_header_bytes (response : Response) :
    response.header.bytes.length = headerSize := rfl

theorem length_bytes (response : Response) :
    response.bytes.length = headerSize + response.data.length := by
  rw [bytes, List.length_append, length_header_bytes]

theorem headerSize_le_length_bytes (response : Response) :
    headerSize ≤ response.bytes.length := by
  rw [length_bytes]
  exact Nat.le_add_right _ _

theorem length_bytes_le {response : Response} (h : response.data.length ≤ maxPayload) :
    response.bytes.length ≤ maxMessage := by
  rw [length_bytes]
  exact Nat.add_le_add_left h headerSize

/-- The header of a response is read back from its bytes. -/
theorem parse?_bytes {response : Response} (h : response.data.length ≤ maxPayload) :
    ResponseHeader.parse? response.bytes = some response.header :=
  ResponseHeader.parse?_bytes (Nat.lt_of_le_of_lt h (by decide)) response.data

/-- The data is what comes after the header. -/
theorem drop_bytes (response : Response) : response.bytes.drop headerSize = response.data := by
  rw [bytes, ← length_header_bytes response, List.drop_left]

end Response

/-! ## What a well-formed answer is -/

/-- The status byte after a command with an outcome, with the card in a state `icc`. -/
def statusOf (icc : UInt8) : Except SlotError Unit → UInt8
  | .ok () => icc
  | .error _ => icc ||| commandFailed

/-- The error byte after a command with an outcome. -/
def errorOf : Except SlotError Unit → UInt8
  | .ok () => 0
  | .error error => error.code

/-- The response answers a message whose command came to an outcome and left the card in a state
`icc`. -/
structure Answers (message : Message) (icc : UInt8) (outcome : Except SlotError Unit)
    (response : Response) : Prop where
  header_le : headerSize ≤ response.bytes.length
  le_max : response.bytes.length ≤ maxMessage
  /-- The header is read back from the bytes. -/
  read : ResponseHeader.parse? response.bytes = some response.header
  slot_eq : response.header.slot = message.slot
  seq_eq : response.header.seq = message.seq
  type_eq : response.header.type = answerType message.type
  length_eq : response.header.length = (response.bytes.drop headerSize).length
  status_eq : response.header.status = statusOf icc outcome
  icc_eq : response.header.status &&& 0x03 = icc
  failed_iff : response.failed ↔ ∃ error, outcome = .error error
  error_eq : response.header.error = errorOf outcome
  /-- A command that failed has no data to show. -/
  silent : ∀ error, outcome = .error error → response.bytes.drop headerSize = []

theorem SlotError.code_ne_noError (error : SlotError) : error.code ≠ noError := by
  cases error <;> decide

/-- No other failure has the code of success. -/
theorem SlotError.eq_notSupported {error : SlotError} (h : error.code = 0) :
    error = .notSupported := by
  cases error <;> first | rfl | exact absurd h (by decide)

namespace Response

variable (family : ResponseType) (echo : Echo) (icc specific : UInt8) (data : List UInt8)

theorem build_error (error : SlotError) : build family echo icc error.code specific data =
    { type := family.code
      slot := echo.slot
      seq := echo.seq
      status := icc ||| commandFailed
      error := error.code
      specific
      data := if error.code = 0 then data.take maxPayload else [] } := by
  rw [build, if_neg error.code_ne_noError]

theorem status_build (outcome : Except SlotError Unit) :
    (build family echo icc (outcomeCode outcome) specific data).status = statusOf icc outcome := by
  cases outcome with
  | ok => rfl
  | error error => rw [outcomeCode, build_error, statusOf]

theorem error_build (outcome : Except SlotError Unit) :
    (build family echo icc (outcomeCode outcome) specific data).error = errorOf outcome := by
  cases outcome with
  | ok => rfl
  | error error => rw [outcomeCode, build_error, errorOf]

/-- A command that failed has no data to show, even if its code is that of success. -/
theorem data_build_error {error : SlotError} (h : error = .notSupported → data = []) :
    (build family echo icc error.code specific data).data = [] := by
  rw [build_error]
  dsimp only
  split
  · rename_i hzero
    rw [h (SlotError.eq_notSupported hzero), List.take_nil]
  · rfl

theorem length_data_build (code : UInt8) :
    (build family echo icc code specific data).data.length ≤ maxPayload := by
  show (if _ then data.take maxPayload else []).length ≤ maxPayload
  split
  · exact List.length_take_le _ _
  · exact Nat.zero_le _

end Response

namespace Slot

variable {κ : Type} [SmartCard κ]

theorem iccStatus_cases (slot : Slot) (card : κ) :
    slot.iccStatus card = iccActive ∨ slot.iccStatus card = iccInactive ∨
      slot.iccStatus card = iccAbsent := by
  unfold iccStatus
  split
  · exact .inr (.inr rfl)
  split
  · exact .inl rfl
  · exact .inr (.inl rfl)

/-- The failure of a command leaves the state of the card legible. -/
theorem statusOf_iccStatus (slot : Slot) (card : κ) (outcome : Except SlotError Unit) :
    statusOf (slot.iccStatus card) outcome &&& 0x03 = slot.iccStatus card := by
  cases outcome with
  | ok => obtain h | h | h := slot.iccStatus_cases card <;> rw [h, statusOf] <;> decide
  | error => obtain h | h | h := slot.iccStatus_cases card <;> rw [h, statusOf] <;> decide

/-- The state of the card does not look like a failure of the command. -/
theorem statusOf_failed (slot : Slot) (card : κ) (outcome : Except SlotError Unit) :
    (statusOf (slot.iccStatus card) outcome &&& commandFailed != 0) = true ↔
      ∃ error, outcome = .error error := by
  cases outcome with
  | ok =>
    refine iff_of_false ?_ nofun
    obtain h | h | h := slot.iccStatus_cases card <;> rw [h, statusOf] <;> decide
  | error error =>
    refine iff_of_true ?_ ⟨error, rfl⟩
    obtain h | h | h := slot.iccStatus_cases card <;> rw [h, statusOf] <;> decide

/-! ## Carrying out a command -/

/-- What a command leads to, without its data. -/
def Handled.void {α : Type} (handled : Handled κ α) : Handled κ Unit :=
  (handled.1.map fun _ => (), handled.2)

/-- The slot once the reader has looked for the card. -/
def noticing (slot : Slot) (card : κ) : Slot :=
  if SmartCard.present card then slot else slot.deactivate

/-- Carries out a command, without answering it. -/
def perform (message : Message) (slot : Slot) (card : κ) : Handled κ Unit :=
  match message.command? with
  | some .powerOn => Handled.void (powerOn message slot card)
  | some .powerOff => powerOff message slot card
  | some .getSlotStatus => (getSlotStatus message card, slot, card)
  | some .xfrBlock => Handled.void (xfrBlock message slot card)
  | some .getParameters => (getParameters message card, slot, card)
  | some .resetParameters => resetParameters message slot card
  | some .setParameters => setParameters message slot card
  | some .iccClock => iccClock message slot card
  | some .abort => (abort message, slot, card)
  | some .setDataRate => setDataRate message slot card
  | some .escape | some .t0Apdu | some .secure | some .mechanical =>
    (notSupported message, slot, card)
  | none => (.error .notSupported, slot, card)

/-! ## Codes of failures -/

/-- The step does not refuse the command as not supported. -/
def Supported {α : Type} (step : Except SlotError α) : Prop := step ≠ .error .notSupported

variable {α β : Type} {message : Message} {slot : Slot} {card : κ}

theorem supported_ok (value : α) : Supported (.ok value : Except SlotError α) := nofun

theorem supported_error {error : SlotError} (h : error ≠ .notSupported) :
    Supported (.error error : Except SlotError α) := by
  intro herror
  cases herror
  exact h rfl

/-- A check with a code of its own does not refuse the command as not supported. -/
theorem supported_ite {p : Prop} [Decidable p] {error : SlotError} {step : Except SlotError α}
    (h : error ≠ .notSupported) (hstep : Supported step) :
    Supported (if p then .error error else step) := by
  split
  · exact supported_error h
  · exact hstep

theorem supported_guard_bind {p : Prop} [Decidable p] {error : SlotError}
    {rest : Except SlotError α} (h : error ≠ .notSupported) (hrest : Supported rest) :
    Supported ((if p then .error error else .ok () : Except SlotError Unit) >>= fun _ => rest) := by
  by_cases hp : p
  · rw [if_pos hp]
    exact supported_error h
  · rw [if_neg hp]
    exact hrest

theorem supported_requestedRate (payload : List UInt8) : Supported (requestedRate payload) := by
  unfold requestedRate
  split
  · exact supported_ok _
  · nofun

theorem supported_parse (protocol : UInt8) (data : List UInt8) :
    Supported (ProtocolParams.parse protocol data) := by
  unfold ProtocolParams.parse
  split
  · split
    · refine supported_guard_bind nofun ?_
      refine supported_ite nofun ?_
      exact supported_guard_bind nofun (supported_ok _)
    · nofun
  split
  · split
    · refine supported_guard_bind nofun ?_
      refine supported_ite nofun ?_
      refine supported_guard_bind nofun ?_
      exact supported_ite nofun (supported_ite nofun (supported_ok _))
    · nofun
  · nofun

theorem supported_slotError (error : CardError) :
    Supported (.error error.slotError : Except SlotError α) := by
  cases error <;> nofun

/-- A command that fails in its checks fails with their code. -/
theorem supported_of_check {check : Except SlotError α} {error : SlotError}
    (hfail : check = .error error) (hcheck : Supported check) :
    Supported (.error error : Except SlotError β) := by
  intro herror
  cases herror
  exact hcheck hfail

theorem supported_getParameters : Supported (getParameters message card) := by
  refine supported_guard_bind nofun ?_
  refine supported_guard_bind nofun ?_
  exact supported_guard_bind nofun (supported_ite nofun (supported_ok ()))

theorem supported_resetParameters : Supported (resetParameters message slot card).1 := by
  unfold resetParameters
  split
  · rename_i error hfail
    exact supported_of_check hfail supported_getParameters
  · exact supported_ok ()

theorem supported_setParameters : Supported (setParameters message slot card).1 := by
  unfold setParameters
  split
  · rename_i error hfail
    refine supported_of_check hfail ?_
    refine supported_guard_bind nofun ?_
    refine supported_guard_bind nofun ?_
    refine supported_guard_bind nofun ?_
    exact supported_guard_bind nofun (supported_parse _ _)
  · exact supported_ok ()

theorem supported_setDataRate : Supported (setDataRate message slot card).1 := by
  unfold setDataRate
  split
  · rename_i error hfail
    refine supported_of_check hfail ?_
    refine supported_guard_bind nofun ?_
    refine supported_guard_bind nofun ?_
    refine supported_guard_bind nofun ?_
    exact supported_guard_bind nofun (supported_requestedRate _)
  · split
    · exact supported_slotError _
    · exact supported_ok ()

/-! ## The answer to a command -/

/-- The answer is a response of a family, built from what became of the command.  A command that
is refused as not supported has no data to give away. -/
def Reports (family : ResponseType) (message : Message) (handled : Handled κ Unit)
    (answer : Response × Slot × κ) : Prop :=
  ∃ specific data,
    answer = (.build family ⟨message.slot, message.seq⟩ (handled.2.1.iccStatus handled.2.2)
      (outcomeCode handled.1) specific data, handled.2) ∧
    (handled.1 = .error .notSupported → data = [])

theorem reports_answerData (handled : Handled κ (List UInt8)) :
    Reports .dataBlock message handled.void (answerData ⟨message.slot, message.seq⟩ handled) := by
  obtain ⟨outcome, slot, card⟩ := handled
  cases outcome with
  | ok data => exact ⟨_, data, rfl, nofun⟩
  | error error => exact ⟨_, [], rfl, fun _ => rfl⟩

theorem reports_answerStatus (handled : Handled κ Unit) :
    Reports .slotStatus message handled (answerStatus ⟨message.slot, message.seq⟩ handled) :=
  ⟨_, [], rfl, fun _ => rfl⟩

theorem reports_answerEscape (handled : Handled κ Unit) :
    Reports .escape message handled (answerEscape ⟨message.slot, message.seq⟩ handled) :=
  ⟨_, [], rfl, fun _ => rfl⟩

theorem reports_answerParameters {handled : Handled κ Unit} (h : Supported handled.1) :
    Reports .parameters message handled (answerParameters ⟨message.slot, message.seq⟩ handled) :=
  ⟨_, _, rfl, fun hnot => absurd hnot h⟩

theorem reports_answerRate {handled : Handled κ Unit} (h : Supported handled.1) :
    Reports .dataRate message handled (answerRate ⟨message.slot, message.seq⟩ handled) :=
  ⟨_, _, rfl, fun hnot => absurd hnot h⟩

/-- Every command is answered by a response of its family, built from what became of it. -/
theorem reports_handle (message : Message) (slot : Slot) (card : κ) :
    Reports (familyOf message.command?) message (perform message slot card)
      (handle message slot card) := by
  unfold handle perform
  cases message.command? with
  | none => exact reports_answerStatus _
  | some command =>
    cases command with
    | powerOn | xfrBlock => exact reports_answerData _
    | getParameters => exact reports_answerParameters supported_getParameters
    | resetParameters => exact reports_answerParameters supported_resetParameters
    | setParameters => exact reports_answerParameters supported_setParameters
    | setDataRate => exact reports_answerRate supported_setDataRate
    | escape => exact reports_answerEscape _
    | secure =>
      -- there is no data to drop from the outcome
      have hvoid :
          Handled.void ((notSupported message).map fun _ => ([] : List UInt8), slot, card) =
            (notSupported message, slot, card) := by
        cases notSupported message <;> rfl
      rw [← hvoid]
      exact reports_answerData _
    | powerOff | getSlotStatus | iccClock | t0Apdu | mechanical | abort =>
      exact reports_answerStatus _

/-- A response that is built from what became of a command is a well-formed answer to it. -/
theorem answers_of_reports {message : Message} {handled : Handled κ Unit}
    {answer : Response × Slot × κ}
    (h : Reports (familyOf message.command?) message handled answer) :
    Answers message (handled.2.1.iccStatus handled.2.2) handled.1 answer.1 := by
  obtain ⟨specific, data, rfl, hdata⟩ := h
  obtain ⟨outcome, slot, card⟩ := handled
  let family := familyOf message.command?
  let echo : Echo := ⟨message.slot, message.seq⟩
  let icc := slot.iccStatus card
  have hstatus := Response.status_build family echo icc specific data outcome
  have herror := Response.error_build family echo icc specific data outcome
  have hroom := Response.length_data_build family echo icc specific data (outcomeCode outcome)
  refine
    { header_le := Response.headerSize_le_length_bytes _
      le_max := Response.length_bytes_le hroom
      read := Response.parse?_bytes hroom
      slot_eq := rfl
      seq_eq := rfl
      type_eq := code_familyOf message
      length_eq := by rw [Response.drop_bytes]; rfl
      status_eq := hstatus
      icc_eq := ?_
      failed_iff := ?_
      error_eq := herror
      silent := ?_ }
  · rw [Response.header, hstatus]
    exact statusOf_iccStatus slot card outcome
  · rw [Response.failed, hstatus]
    exact statusOf_failed slot card outcome
  · rintro error rfl
    rw [Response.drop_bytes]
    exact Response.data_build_error _ _ _ _ _ fun herror => hdata (congrArg Except.error herror)

/-- A command leaves the slot and the card as carrying it out leaves them. -/
theorem snd_handle (message : Message) (slot : Slot) (card : κ) :
    (handle message slot card).2 = (perform message slot card).2 := by
  obtain ⟨specific, data, hanswer, -⟩ := reports_handle message slot card
  rw [hanswer]

theorem answers_handle (message : Message) (slot : Slot) (card : κ) :
    let handled := perform message slot card
    Answers message (handled.2.1.iccStatus handled.2.2) handled.1 (handle message slot card).1 :=
  answers_of_reports (reports_handle message slot card)

/-- Every command is answered by a well-formed response, and the slot and the card are left as the
command leaves them, which finds the slot deactivated if the card is absent. -/
theorem dispatch_answers (message : Message) (slot : Slot) (card : κ) :
    let handled := perform message (slot.noticing card) card
    (dispatch message slot card).2 = handled.2 ∧
      Answers message (handled.2.1.iccStatus handled.2.2) handled.1
        (dispatch message slot card).1 := by
  have hdispatch : dispatch message slot card = handle message (slot.noticing card) card := rfl
  intro handled
  rw [hdispatch]
  refine ⟨?_, ?_⟩
  · exact snd_handle message (slot.noticing card) card
  · exact answers_handle message (slot.noticing card) card

end Slot

end CardReader.Ccid
