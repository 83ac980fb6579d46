import CardReader.Proofs.Ccid.Answer

/-!
# What a command does once it is checked

Every command of the table goes through its checks first and then does one thing at most: it makes
one call of the card, or it sets the parameters, or nothing is left to do.  The checks of a command
and what it asks for are its intent; carrying out the intent is what the command does.

What is proved here:

* `suits_of_intent` — what each command can ask for;
* `perform_eq` and `handle_eq` — every command carries out its intent, and is answered with what
  comes of it;
* `failed_of_perform_error` and `failed_of_perform_ok` — which answers are failures.
-/

namespace CardReader.Ccid

/-! ## Calls of the card -/

/-- A call that can change a card. -/
inductive CardCall where
  /-- Activate the card, which has a buffer for its answer to reset. -/
  | powerOn (voltage : Voltage) (room : Nat)
  /-- Deactivate the card. -/
  | powerOff
  /-- Send an APDU, for whose answer the card has a buffer. -/
  | transmit (apdu : List UInt8) (room : Nat)
  /-- Stop or restart the clock. -/
  | setClock (running : Bool)
  /-- Ask for a clock frequency and a data rate. -/
  | setRate (clock rate : UInt32)
  deriving DecidableEq

/-- What a card answers to a call. -/
inductive CardReply where
  /-- It has done what it was asked for. -/
  | done
  /-- It gives data. -/
  | data (bytes : List UInt8)
  /-- It gives the clock frequency and the data rate that apply. -/
  | rates (clock rate : UInt32)
  deriving DecidableEq

/-- The data of a reply. -/
def CardReply.bytes : CardReply → List UInt8
  | data bytes => bytes
  | done | rates _ _ => []

namespace CardCall

variable {κ : Type} [SmartCard κ]

/-- Makes the call. -/
def make (call : CardCall) (card : κ) : Except CardError CardReply × κ :=
  match call with
  | powerOn voltage room =>
    (SmartCard.powerOn voltage room card).map (Except.map fun filled => .data filled.bytes) id
  | powerOff => (.ok .done, SmartCard.powerOff card)
  | transmit apdu room =>
    (SmartCard.transmit apdu room card).map (Except.map fun filled => .data filled.bytes) id
  | setClock running => (SmartCard.setClock running card).map (Except.map fun () => .done) id
  | setRate clock rate =>
    (SmartCard.setRate clock rate card).map (Except.map fun rates => .rates rates.1 rates.2) id

end CardCall

/-! ## Intents -/

/-- What a command does once its checks are passed. -/
inductive Errand where
  /-- Nothing is left to do. -/
  | nothing
  /-- Set the protocol parameters. -/
  | parameters (params : ProtocolParams)
  /-- Call the card. -/
  | call (made : CardCall)
  deriving DecidableEq

/-- The calls of the card that are made for an intent. -/
def Errand.calls : Except SlotError Errand → List CardCall
  | .ok (.call made) => [made]
  | .ok .nothing | .ok (.parameters _) | .error _ => []

namespace Slot

variable {κ : Type} [SmartCard κ]

/-- What the message, the presence of a card and its activity are checked for, and what the
command then does. -/
def intent (message : Message) (slot : Slot) (card : κ) : Except SlotError Errand :=
  match message.command? with
  | some .powerOn =>
    Except.map (fun voltage => .call (.powerOn voltage maxAtr)) do
      let voltage ← selectVoltage message
      checkPresent card
      return voltage
  | some .powerOff =>
    Except.map (fun () => .call .powerOff) do
      checkSlot message
      checkReserved3 message
  | some .getSlotStatus => (getSlotStatus message card).map fun () => .nothing
  | some .xfrBlock =>
    Except.map (fun () => .call (.transmit message.payload maxPayload)) do
      checkSlot message
      checkPresent card
      checkActive slot
      checkData message
      checkLastTwo message .badLevel
  | some .getParameters => (getParameters message card).map fun () => .nothing
  | some .resetParameters => (getParameters message card).map fun () => .parameters .default
  | some .setParameters =>
    Except.map .parameters do
      checkSlot message
      checkPresent card
      checkLastTwo message .badReserved2
      checkData message
      ProtocolParams.parse message.params.first message.payload
  | some .iccClock =>
    Except.map (fun running => .call (.setClock running)) do
      checkSlot message
      checkPresent card
      checkLastTwo message .badReserved2
      let running ← clockCommand message
      checkActive slot
      return running
  | some .abort => (abort message).map fun () => .nothing
  | some .setDataRate =>
    Except.map (fun wanted => .call (.setRate wanted.1 wanted.2)) do
      checkSlot message
      checkPresent card
      checkReserved3 message
      checkData message
      requestedRate message.payload
  | some .escape | some .t0Apdu | some .secure | some .mechanical =>
    (notSupported message).map fun () => .nothing
  | none => .error .notSupported

/-- The slot after a call that the card has answered. -/
def granted (slot : Slot) : CardCall → CardReply → Slot
  | .powerOn .., _ => { slot.deactivate with powered := true, params := .default }
  | .powerOff, _ => slot.deactivate
  | .setClock running, _ => { slot with clockStopped := !running }
  | .setRate .., .rates clock rate => { slot with clock, rate }
  | .setRate .., _ | .transmit .., _ => slot

/-- The slot after a call that the card has refused.  A card that refuses to be activated is not
active. -/
def refused (slot : Slot) : CardCall → Slot
  | .powerOn .. => slot.deactivate
  | .powerOff | .transmit .. | .setClock _ | .setRate .. => slot

/-- What comes of the answer of a card to a call. -/
def settle (slot : Slot) (call : CardCall) (made : Except CardError CardReply × κ) :
    Handled κ (List UInt8) :=
  match made with
  | (.error error, card) => (.error error.slotError, slot.refused call, card)
  | (.ok reply, card) => (.ok reply.bytes, slot.granted call reply, card)

/-- Does what a command asks for. -/
def fulfil (slot : Slot) (card : κ) : Errand → Handled κ (List UInt8)
  | .nothing => (.ok [], slot, card)
  | .parameters params => (.ok [], { slot with params }, card)
  | .call call => slot.settle call (call.make card)

/-- Carries out an intent. -/
def carryOut (slot : Slot) (card : κ) : Except SlotError Errand → Handled κ (List UInt8)
  | .error error => (.error error, slot, card)
  | .ok errand => fulfil slot card errand

/-- The answer to a command, from what came of it. -/
def report (message : Message) (handled : Handled κ (List UInt8)) : Response × Slot × κ :=
  let echo : Echo := ⟨message.slot, message.seq⟩
  match familyOf message.command? with
  | .dataBlock => answerData echo handled
  | .slotStatus => answerStatus echo handled.void
  | .parameters => answerParameters echo handled.void
  | .escape => answerEscape echo handled.void
  | .dataRate => answerRate echo handled.void

variable {message : Message} {slot : Slot} {card : κ}

/-! ## What a command can ask for -/

/-- What a command can ask for, with what the reader knows then. -/
inductive Suits (message : Message) (slot : Slot) (card : κ) : Errand → Prop
  /-- A command that asks for a report is done. -/
  | nothing : Suits message slot card .nothing
  /-- A command to activate the card finds one. -/
  | powerOn {voltage : Voltage} (command : message.command? = some .powerOn)
    (present : SmartCard.present card = true) :
    Suits message slot card (.call (.powerOn voltage maxAtr))
  /-- A command to deactivate the card need not find one. -/
  | powerOff (command : message.command? = some .powerOff) :
    Suits message slot card (.call .powerOff)
  /-- The card is sent the whole payload. -/
  | transmit (command : message.command? = some .xfrBlock) :
    Suits message slot card (.call (.transmit message.payload maxPayload))
  /-- The default parameters are set. -/
  | reset (command : message.command? = some .resetParameters) :
    Suits message slot card (.parameters .default)
  /-- The parameters that the payload holds are set. -/
  | set {params : ProtocolParams} (command : message.command? = some .setParameters)
    (read : ProtocolParams.parse message.params.first message.payload = .ok params) :
    Suits message slot card (.parameters params)
  /-- The clock of an active card is stopped or restarted. -/
  | setClock {running : Bool} (command : message.command? = some .iccClock)
    (active : slot.powered = true) : Suits message slot card (.call (.setClock running))
  /-- The card is asked for another clock frequency and data rate. -/
  | setRate {clock rate : UInt32} (command : message.command? = some .setDataRate) :
    Suits message slot card (.call (.setRate clock rate))

theorem map_eq_ok {α β : Type} {step : Except SlotError α} {f : α → β} {b : β}
    (h : step.map f = .ok b) : ∃ a, step = .ok a ∧ f a = b := by
  cases step with
  | ok a => exact ⟨a, rfl, Except.ok.inj h⟩
  | error error => cases h

theorem bind_eq_ok {α β : Type} {step : Except SlotError α} {next : α → Except SlotError β} {b : β}
    (h : step >>= next = .ok b) : ∃ a, step = .ok a ∧ next a = .ok b := by
  cases step with
  | ok a => exact ⟨a, rfl, h⟩
  | error error => cases h

/-- A step that is ok has passed the check before it. -/
theorem ite_eq_ok {α : Type} {p : Prop} [Decidable p] {error : SlotError} {step : Except SlotError α}
    {a : α} (h : (if p then .error error else step) = .ok a) : step = .ok a := by
  split at h
  · cases h
  · exact h

theorem present_of_check {u : Unit} (h : checkPresent card = .ok u) :
    SmartCard.present card = true := by
  unfold checkPresent at h
  cases hpresent : SmartCard.present card with
  | true => rfl
  | false => simp [hpresent] at h

theorem active_of_check {u : Unit} (h : checkActive slot = .ok u) : slot.powered = true := by
  unfold checkActive at h
  cases hpowered : slot.powered with
  | true => rfl
  | false => simp [hpowered] at h

/-- What a command asks for suits it. -/
theorem suits_of_intent {errand : Errand} (h : intent message slot card = .ok errand) :
    Suits message slot card errand := by
  unfold intent at h
  cases hcommand : message.command? with
  | none => simp [hcommand] at h
  | some command =>
    rw [hcommand] at h
    cases command with
    | powerOn =>
      obtain ⟨voltage, hchecked, rfl⟩ := map_eq_ok h
      obtain ⟨_, -, hchecked⟩ := bind_eq_ok hchecked
      obtain ⟨_, hpresent, -⟩ := bind_eq_ok hchecked
      exact .powerOn hcommand (present_of_check hpresent)
    | powerOff =>
      obtain ⟨_, -, rfl⟩ := map_eq_ok h
      exact .powerOff hcommand
    | xfrBlock =>
      obtain ⟨_, -, rfl⟩ := map_eq_ok h
      exact .transmit hcommand
    | resetParameters =>
      obtain ⟨_, -, rfl⟩ := map_eq_ok h
      exact .reset hcommand
    | setParameters =>
      obtain ⟨params, hchecked, rfl⟩ := map_eq_ok h
      obtain ⟨_, -, hchecked⟩ := bind_eq_ok hchecked
      obtain ⟨_, -, hchecked⟩ := bind_eq_ok hchecked
      obtain ⟨_, -, hchecked⟩ := bind_eq_ok hchecked
      obtain ⟨_, -, hread⟩ := bind_eq_ok hchecked
      exact .set hcommand hread
    | iccClock =>
      obtain ⟨running, hchecked, rfl⟩ := map_eq_ok h
      obtain ⟨_, -, hchecked⟩ := bind_eq_ok hchecked
      obtain ⟨_, -, hchecked⟩ := bind_eq_ok hchecked
      obtain ⟨_, -, hchecked⟩ := bind_eq_ok hchecked
      obtain ⟨_, -, hchecked⟩ := bind_eq_ok hchecked
      obtain ⟨_, hactive, -⟩ := bind_eq_ok hchecked
      exact .setClock hcommand (active_of_check hactive)
    | setDataRate =>
      obtain ⟨_, -, rfl⟩ := map_eq_ok h
      exact .setRate hcommand
    | getSlotStatus | getParameters | abort | escape | t0Apdu | secure | mechanical =>
      obtain ⟨_, -, rfl⟩ := map_eq_ok h
      exact .nothing

/-! ## Commands carry out their intents -/

theorem carryOut_map_error {α : Type} {check : Except SlotError α} {error : SlotError}
    (h : check = .error error) (errand : α → Errand) :
    carryOut slot card (check.map errand) = (.error error, slot, card) := by
  rw [h]
  rfl

theorem carryOut_map_ok {α : Type} {check : Except SlotError α} {a : α} (h : check = .ok a)
    (errand : α → Errand) : carryOut slot card (check.map errand) = fulfil slot card (errand a) := by
  rw [h]
  rfl

theorem powerOn_eq (command : message.command? = some .powerOn) :
    powerOn message slot card = carryOut slot card (intent message slot card) := by
  simp only [intent, command]
  unfold powerOn
  split
  · rename_i error hfail
    exact (carryOut_map_error hfail _).symm
  · rename_i voltage hpass
    rw [carryOut_map_ok hpass]
    simp only [fulfil, CardCall.make]
    rcases SmartCard.powerOn voltage maxAtr card with ⟨error | filled, after⟩
    · rfl
    · rfl

theorem powerOff_eq (command : message.command? = some .powerOff) :
    powerOff message slot card = (carryOut slot card (intent message slot card)).void := by
  simp only [intent, command]
  unfold powerOff
  split
  · rename_i error hfail
    rw [carryOut_map_error hfail]
    rfl
  · rename_i hpass
    rw [carryOut_map_ok hpass]
    rfl

theorem xfrBlock_eq (command : message.command? = some .xfrBlock) :
    xfrBlock message slot card = carryOut slot card (intent message slot card) := by
  simp only [intent, command]
  unfold xfrBlock
  split
  · rename_i error hfail
    exact (carryOut_map_error hfail _).symm
  · rename_i hpass
    rw [carryOut_map_ok hpass]
    simp only [fulfil, CardCall.make]
    rcases SmartCard.transmit message.payload maxPayload card with ⟨error | filled, after⟩
    · rfl
    · rfl

theorem resetParameters_eq (command : message.command? = some .resetParameters) :
    resetParameters message slot card = (carryOut slot card (intent message slot card)).void := by
  simp only [intent, command]
  unfold resetParameters
  split
  · rename_i error hfail
    rw [carryOut_map_error hfail]
    rfl
  · rename_i hpass
    rw [carryOut_map_ok hpass]
    rfl

theorem setParameters_eq (command : message.command? = some .setParameters) :
    setParameters message slot card = (carryOut slot card (intent message slot card)).void := by
  simp only [intent, command]
  unfold setParameters
  split
  · rename_i error hfail
    rw [carryOut_map_error hfail]
    rfl
  · rename_i params hpass
    rw [carryOut_map_ok hpass]
    rfl

theorem iccClock_eq (command : message.command? = some .iccClock) :
    iccClock message slot card = (carryOut slot card (intent message slot card)).void := by
  simp only [intent, command]
  unfold iccClock
  split
  · rename_i error hfail
    rw [carryOut_map_error hfail]
    rfl
  · rename_i running hpass
    rw [carryOut_map_ok hpass]
    simp only [fulfil, CardCall.make]
    rcases SmartCard.setClock running card with ⟨error | ⟨⟩, after⟩
    · rfl
    · rfl

theorem setDataRate_eq (command : message.command? = some .setDataRate) :
    setDataRate message slot card = (carryOut slot card (intent message slot card)).void := by
  simp only [intent, command]
  unfold setDataRate
  split
  · rename_i error hfail
    rw [carryOut_map_error hfail]
    rfl
  · rename_i clock rate hpass
    rw [carryOut_map_ok hpass]
    simp only [fulfil, CardCall.make]
    rcases SmartCard.setRate clock rate card with ⟨error | ⟨clock', rate'⟩, after⟩
    · rfl
    · rfl

/-- A command that only reports leaves everything as it is. -/
theorem void_carryOut_nothing (check : Except SlotError Unit) :
    (carryOut slot card (check.map fun () => .nothing)).void = (check, slot, card) := by
  cases check with
  | ok => rfl
  | error error => rfl

/-- Every command carries out its intent. -/
theorem perform_eq (message : Message) (slot : Slot) (card : κ) :
    perform message slot card = (carryOut slot card (intent message slot card)).void := by
  unfold perform
  cases hcommand : message.command? with
  | none => simp only [intent, hcommand]; rfl
  | some command =>
    cases command with
    | powerOn => exact congrArg Handled.void (powerOn_eq hcommand)
    | powerOff => exact powerOff_eq hcommand
    | xfrBlock => exact congrArg Handled.void (xfrBlock_eq hcommand)
    | resetParameters => exact resetParameters_eq hcommand
    | setParameters => exact setParameters_eq hcommand
    | iccClock => exact iccClock_eq hcommand
    | setDataRate => exact setDataRate_eq hcommand
    | getSlotStatus | getParameters | abort | escape | t0Apdu | secure | mechanical =>
      simp only [intent, hcommand]
      exact (void_carryOut_nothing _).symm

/-- Every command is answered with what comes of its intent. -/
theorem handle_eq (message : Message) (slot : Slot) (card : κ) :
    handle message slot card = report message (carryOut slot card (intent message slot card)) := by
  unfold handle report
  cases hcommand : message.command? with
  | none => simp only [intent, hcommand]; rfl
  | some command =>
    cases command with
    | powerOn => exact congrArg (answerData _) (powerOn_eq hcommand)
    | powerOff => exact congrArg (answerStatus _) (powerOff_eq hcommand)
    | xfrBlock => exact congrArg (answerData _) (xfrBlock_eq hcommand)
    | resetParameters => exact congrArg (answerParameters _) (resetParameters_eq hcommand)
    | setParameters => exact congrArg (answerParameters _) (setParameters_eq hcommand)
    | iccClock => exact congrArg (answerStatus _) (iccClock_eq hcommand)
    | setDataRate => exact congrArg (answerRate _) (setDataRate_eq hcommand)
    | secure =>
      -- a command that is not supported has no data either way
      simp only [intent, hcommand]
      cases notSupported message with
      | ok => rfl
      | error error => rfl
    | getParameters =>
      simp only [intent, hcommand]
      exact congrArg (answerParameters _) (void_carryOut_nothing _).symm
    | escape =>
      simp only [intent, hcommand]
      exact congrArg (answerEscape _) (void_carryOut_nothing _).symm
    | getSlotStatus | abort | t0Apdu | mechanical =>
      simp only [intent, hcommand]
      exact congrArg (answerStatus _) (void_carryOut_nothing _).symm

/-- A command that fails is answered by a failure, with its code. -/
theorem failed_of_perform_error {error : SlotError}
    (h : (perform message slot card).1 = .error error) :
    (handle message slot card).1.failed = true ∧ (handle message slot card).1.error = error.code := by
  have hanswers := answers_handle message slot card
  refine ⟨hanswers.failed_iff.2 ⟨error, h⟩, ?_⟩
  have herror := hanswers.error_eq
  rw [h] at herror
  exact herror

/-- A command that succeeds is not. -/
theorem failed_of_perform_ok (h : (perform message slot card).1 = .ok ()) :
    (handle message slot card).1.failed = false := by
  have hfailed := (answers_handle message slot card).failed_iff
  rw [h] at hfailed
  simpa using hfailed

end Slot

end CardReader.Ccid
