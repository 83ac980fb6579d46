import CardReader.Ccid.VirtualCard
import CardReader.Proofs.Ccid.Intent

/-!
# How commands conduct themselves

A command that fails leaves the slot alone.  It calls the card once at most, and not before all its
checks are passed, so a failure is either that of a check or that of the card; and a command that
succeeds changes no more of the slot than it is for.  The calls are read off a card that notes
them, which changes nothing about the answers.

What is proved here:

* `dispatch_noted` — a command does the same to a card that notes its calls, and its calls are
  those of its intent;
* `conduct_handle` — how a command conducts itself on a slot that knows whether its card is there;
* `conduct_dispatch` — how every command conducts itself.
-/

namespace CardReader.Ccid

/-! ## A card that notes its calls -/

/-- A card, and the calls that were made of it. -/
structure Noted (κ : Type) where
  /-- The card. -/
  card : κ
  /-- The calls that could have changed it, oldest first. -/
  calls : List CardCall := []

namespace Noted

variable {κ : Type}

/-- Notes a call that was made. -/
def note {α : Type} (noted : Noted κ) (call : CardCall) (made : α × κ) : α × Noted κ :=
  (made.1, ⟨made.2, noted.calls ++ [call]⟩)

instance [SmartCard κ] : SmartCard (Noted κ) where
  present noted := SmartCard.present noted.card
  powerOn voltage room noted :=
    noted.note (.powerOn voltage room) (SmartCard.powerOn voltage room noted.card)
  powerOff noted := (noted.note .powerOff ((), SmartCard.powerOff noted.card)).2
  transmit apdu room noted :=
    noted.note (.transmit apdu room) (SmartCard.transmit apdu room noted.card)
  setClock running noted := noted.note (.setClock running) (SmartCard.setClock running noted.card)
  setRate clock rate noted :=
    noted.note (.setRate clock rate) (SmartCard.setRate clock rate noted.card)

variable [SmartCard κ]

/-- A call does what it does unnoted, and is noted. -/
theorem make_noted (call : CardCall) (noted : Noted κ) :
    call.make noted = noted.note call (call.make noted.card) := by
  cases call <;> rfl

/-- What a command leads to, with the calls that were noted. -/
def relay {α : Type} (noted : Noted κ) (calls : List CardCall) (handled : Slot.Handled κ α) :
    Slot.Handled (Noted κ) α :=
  (handled.1, handled.2.1, ⟨handled.2.2, noted.calls ++ calls⟩)

end Noted

namespace Slot

variable {κ : Type} [SmartCard κ]

theorem carryOut_noted (slot : Slot) (noted : Noted κ) (intent : Except SlotError Errand) :
    carryOut slot noted intent =
      noted.relay (Errand.calls intent) (carryOut slot noted.card intent) := by
  cases intent with
  | error error => simp [carryOut, Noted.relay, Errand.calls]
  | ok errand =>
    cases errand with
    | nothing => simp [carryOut, fulfil, Noted.relay, Errand.calls]
    | parameters params => simp [carryOut, fulfil, Noted.relay, Errand.calls]
    | call call =>
      simp only [carryOut, fulfil, Noted.make_noted]
      rcases call.make noted.card with ⟨error | reply, after⟩
      · rfl
      · rfl

/-- The answer does not show whether the calls were noted. -/
theorem report_relay (message : Message) (noted : Noted κ) (calls : List CardCall)
    (handled : Handled κ (List UInt8)) :
    report message (noted.relay calls handled) =
      ((report message handled).1, (report message handled).2.1,
        ⟨(report message handled).2.2, noted.calls ++ calls⟩) := by
  unfold report
  cases familyOf message.command? <;> rfl

/-- A command does the same to a card that notes its calls, and its calls are those of its
intent. -/
theorem dispatch_noted (message : Message) (slot : Slot) (noted : Noted κ) :
    dispatch message slot noted =
      ((dispatch message slot noted.card).1, (dispatch message slot noted.card).2.1,
        ⟨(dispatch message slot noted.card).2.2,
          noted.calls ++ Errand.calls (intent message (slot.noticing noted.card) noted.card)⟩) := by
  have hnoted : dispatch message slot noted = handle message (slot.noticing noted.card) noted := rfl
  have hplain : dispatch message slot noted.card =
    handle message (slot.noticing noted.card) noted.card := rfl
  have hintent : intent message (slot.noticing noted.card) noted =
    intent message (slot.noticing noted.card) noted.card := rfl
  rw [hnoted, hplain, handle_eq, handle_eq, hintent, carryOut_noted, report_relay]

/-! ## Conduct -/

/-- What a command may change when it succeeds, and no more. -/
structure Confined (message : Message) (slot after : Slot) : Prop where
  /-- The parameters are changed by the commands for them, and by activation. -/
  params_eq : message.command? ≠ some .powerOn → message.command? ≠ some .resetParameters →
    message.command? ≠ some .setParameters → after.params = slot.params
  /-- The clock frequency and the data rate are changed by one command. -/
  rates_eq : message.command? ≠ some .setDataRate →
    after.clock = slot.clock ∧ after.rate = slot.rate
  /-- The clock is stopped and restarted by one command, and runs after the activation changes. -/
  clockStopped_eq : message.command? ≠ some .powerOn → message.command? ≠ some .powerOff →
    message.command? ≠ some .iccClock → after.clockStopped = slot.clockStopped
  /-- The activation is changed by the commands for it. -/
  powered_eq : message.command? ≠ some .powerOn → message.command? ≠ some .powerOff →
    after.powered = slot.powered

/-- How a command conducts itself on a slot that knows whether its card is there: where its calls
and its failure come from, and what it may change. -/
structure Conduct (message : Message) (slot : Slot) (card : κ) (calls : List CardCall)
    (response : Response) (after : Slot) : Prop where
  /-- The card is called once at most. -/
  calls_le : calls.length ≤ 1
  /-- A command that does not pass its checks fails with their code, before any call. -/
  checked : ∀ error, intent message slot card = .error error →
    response.failed = true ∧ response.error = error.code ∧ calls = []
  /-- A command that passes them fails only if the card refuses its call. -/
  blamed : ∀ errand, intent message slot card = .ok errand → response.failed = true →
    ∃ call error, calls = [call] ∧ (call.make card).1 = .error error ∧
      response.error = error.slotError.code
  /-- A failure leaves the slot as it was, -/
  kept : response.failed = true → (∀ voltage room, calls ≠ [.powerOn voltage room]) → after = slot
  /-- unless the card refuses to be activated, which leaves the slot inactive and no more. -/
  cleared : response.failed = true → ∀ voltage room, calls = [.powerOn voltage room] →
    message.command? = some .powerOn ∧ after = slot.deactivate
  /-- A success changes what the command is for. -/
  confined : response.failed = false → Confined message slot after

variable {message : Message} {slot : Slot} {card : κ}

theorem length_calls_le (intent : Except SlotError Errand) : (Errand.calls intent).length ≤ 1 := by
  rcases intent with error | errand
  · simp [Errand.calls]
  · cases errand <;> simp [Errand.calls]

/-- A call that is granted changes what its command is for. -/
theorem confined_granted {call : CardCall} (h : Suits message slot card (.call call))
    (reply : CardReply) : Confined message slot (slot.granted call reply) := by
  cases h with
  | powerOn command | powerOff command | transmit command | setClock command =>
    constructor <;> simp [command, granted, deactivate]
  | setRate command =>
    cases reply <;> constructor <;> simp [command, granted]

theorem confined_fulfil {errand : Errand} (h : Suits message slot card errand) {data : List UInt8}
    (hok : (fulfil slot card errand).1 = .ok data) :
    Confined message slot (fulfil slot card errand).2.1 := by
  cases errand with
  | nothing => constructor <;> simp [fulfil]
  | parameters params =>
    cases h with
    | reset command | set command => constructor <;> simp [command, fulfil]
  | call call =>
    simp only [fulfil] at hok ⊢
    rcases hmade : call.make card with ⟨error | reply, after⟩
    · rw [hmade] at hok
      simp [settle] at hok
    · exact confined_granted h reply

/-- A errand that fails is a call that the card has refused. -/
theorem refused_of_fulfil {errand : Errand} {error : SlotError}
    (hfail : (fulfil slot card errand).1 = .error error) :
    ∃ call refusal, errand = .call call ∧ (call.make card).1 = .error refusal ∧
      error = refusal.slotError ∧ (fulfil slot card errand).2.1 = slot.refused call := by
  cases errand with
  | nothing => simp [fulfil] at hfail
  | parameters params => simp [fulfil] at hfail
  | call call =>
    simp only [fulfil] at hfail ⊢
    rcases hmade : call.make card with ⟨refusal | reply, after⟩
    · rw [hmade] at hfail
      simp only [settle, Except.error.injEq] at hfail
      exact ⟨call, refusal, rfl, by rw [hmade], hfail.symm, rfl⟩
    · rw [hmade] at hfail
      simp [settle] at hfail

/-- A refusal clears the slot only if the card was to be activated. -/
theorem refused_eq {call : CardCall} (h : ∀ voltage room, call ≠ .powerOn voltage room) :
    slot.refused call = slot := by
  cases call with
  | powerOn voltage room => exact absurd rfl (h voltage room)
  | _ => rfl

/-- A command conducts itself well. -/
theorem conduct_handle (message : Message) (slot : Slot) (card : κ) :
    Conduct message slot card (Errand.calls (intent message slot card))
      (handle message slot card).1 (handle message slot card).2.1 := by
  have hcalls := length_calls_le (intent message slot card)
  have hperform := perform_eq message slot card
  have hafter := congrArg Prod.fst (snd_handle message slot card)
  rw [hperform] at hafter
  cases hintent : intent message slot card with
  | error error =>
    rw [hintent] at hperform hcalls hafter
    obtain ⟨hfailed, hcode⟩ := failed_of_perform_error (congrArg Prod.fst hperform)
    refine ⟨hcalls, ?_, ?_, fun _ _ => hafter, by simp [Errand.calls], by simp [hfailed]⟩
    · intro other hother
      rw [hintent, Except.error.injEq] at hother
      rw [← hother]
      exact ⟨hfailed, hcode, rfl⟩
    · intro errand herrand
      rw [hintent] at herrand
      cases herrand
  | ok errand =>
    have hsuits := suits_of_intent hintent
    rw [hintent] at hperform hcalls hafter
    have hchecked (error : SlotError) : intent message slot card ≠ .error error := by
      simp [hintent]
    -- the checks are passed, so that a failure can only be the refusal of a call
    cases houtcome : (fulfil slot card errand).1 with
    | error error =>
      obtain ⟨call, refusal, rfl, hmade, rfl, hrefused⟩ := refused_of_fulfil houtcome
      have hfail : (perform message slot card).1 = .error refusal.slotError := by
        rw [hperform]
        simp [Handled.void, carryOut, houtcome, Except.map]
      obtain ⟨hfailed, hcode⟩ := failed_of_perform_error hfail
      have hslot : (handle message slot card).2.1 = slot.refused call := hafter.trans hrefused
      refine ⟨hcalls, fun error herror => absurd herror (hchecked error), ?_, ?_, ?_,
        by simp [hfailed]⟩
      · intro errand herrand _
        exact ⟨call, refusal, rfl, hmade, hcode⟩
      · intro _ hother
        rw [hslot]
        refine refused_eq fun voltage room hcall => hother voltage room ?_
        rw [hcall]
        rfl
      · intro _ voltage room hcall
        obtain rfl : call = .powerOn voltage room := List.singleton_inj.1 hcall
        cases hsuits with
        | powerOn command => exact ⟨command, hslot⟩
    | ok data =>
      have hpass : (perform message slot card).1 = .ok () := by
        rw [hperform]
        simp [Handled.void, carryOut, houtcome, Except.map]
      have hok := failed_of_perform_ok hpass
      have hconfined : Confined message slot (handle message slot card).2.1 := by
        rw [hafter]
        exact confined_fulfil hsuits houtcome
      exact ⟨hcalls, fun error herror => absurd herror (hchecked error), by simp [hok],
        by simp [hok], by simp [hok], fun _ => hconfined⟩

/-- A slot that is not active, and whose clock has not been stopped. -/
def Inactive (slot : Slot) : Prop := slot.powered = false ∧ slot.clockStopped = false

/-- Without a card the slot stays inactive: a command to activate the card needs one that is there,
and a command for the clock one that is active. -/
theorem inactive_handle (habsent : SmartCard.present card = false) (h : slot.Inactive) :
    (handle message slot card).2.1.Inactive := by
  rw [snd_handle, perform_eq]
  cases hintent : intent message slot card with
  | error error => exact h
  | ok errand =>
    cases suits_of_intent hintent with
    | nothing | reset command | set command => exact h
    | powerOff command => exact ⟨rfl, rfl⟩
    | powerOn command present =>
      rw [habsent] at present
      cases present
    | setClock command active =>
      rw [h.1] at active
      cases active
    | transmit command =>
      simp only [carryOut, fulfil]
      rcases (CardCall.transmit message.payload maxPayload).make card with ⟨error | reply, after⟩
      · exact h
      · exact h
    | setRate command =>
      rename_i clock rate
      simp only [carryOut, fulfil]
      rcases (CardCall.setRate clock rate).make card with ⟨error | reply, after⟩
      · exact h
      · cases reply <;> exact h

theorem inactive_noticing (habsent : SmartCard.present card = false) :
    (slot.noticing card).Inactive := by
  simp [noticing, habsent, Inactive, deactivate]

/-- Every command conducts itself well on the slot as the reader finds it, which is inactive if the
card is absent and stays so; and its calls are those that a card notes that notes its calls. -/
theorem conduct_dispatch (message : Message) (slot : Slot) (card : κ) :
    let answer := dispatch message slot card
    ∃ calls, dispatch message slot (⟨card, []⟩ : Noted κ) =
        (answer.1, answer.2.1, ⟨answer.2.2, calls⟩) ∧
      Conduct message (slot.noticing card) card calls answer.1 answer.2.1 ∧
      (SmartCard.present card = false → answer.2.1.Inactive) := by
  intro answer
  refine ⟨_, dispatch_noted message slot ⟨card, []⟩, ?_, ?_⟩
  · exact conduct_handle message (slot.noticing card) card
  · intro habsent
    exact inactive_handle habsent (inactive_noticing habsent)

/-- A card whose answer to reset is too long refuses to be activated: it is called once, and the slot
that was active is not any more, but it keeps its clock frequency. -/
theorem conduct_of_refused_activation :
    let card : VirtualCard := { atr := List.replicate 34 0x3B, powered := true }
    let slot : Slot := { powered := true, clockStopped := true, clock := 4000 }
    let message : Message := { type := 0x62, headerReceived := true, received := headerSize }
    let answer := dispatch message slot card
    (dispatch message slot (⟨card, []⟩ : Noted VirtualCard)).2.2.calls =
        [.powerOn .automatic maxAtr] ∧
      answer.1.failed = true ∧ answer.1.error = CardError.overrun.slotError.code ∧
      answer.2.1 = { slot with powered := false, clockStopped := false } := by
  intro card slot message answer
  obtain ⟨calls, hnoted, hconduct, -⟩ := conduct_dispatch message slot card
  have hcalls : (dispatch message slot (⟨card, []⟩ : Noted VirtualCard)).2.2.calls =
    [.powerOn .automatic maxAtr] := by decide
  have hfailed : answer.1.failed = true := by decide
  obtain rfl : calls = [.powerOn .automatic maxAtr] := by
    rw [hnoted] at hcalls
    exact hcalls
  obtain ⟨-, hslot⟩ := hconduct.cleared hfailed _ _ rfl
  exact ⟨hcalls, hfailed, by decide, hslot⟩

end Slot

end CardReader.Ccid
