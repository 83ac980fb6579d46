import CardReader.Ccid.VirtualCard
import CardReader.Proofs.Ccid.Answer

/-!
# Reader and card

The reader and the card each remember whether the card is active and whether its clock runs.
Commands change both memories together; taking the card out changes that of the card alone, and
the reader learns of it only from a command that finds no card.  A card that is back in time is
one that the reader still takes for active.

What is proved here:

* `effect_perform` — all that a command can do to the two memories;
* `agrees_step` and `agrees_run` — whatever happens, they agree on the clock, and on the
  activation unless the card was taken out;
* `active_iff_kept` — an answer that reports an active card is right about its clock, and right
  about the activation if and only if the card has not been taken out since it was activated.
-/

namespace CardReader.Ccid

/-! ## What a command does -/

namespace Slot

variable {message : Message} {slot : Slot} {card : VirtualCard}

/-- What a command does to what the reader and the card know of the activation. -/
inductive Effect (message : Message) (slot : Slot) (card : VirtualCard) :
    Handled VirtualCard Unit → Prop
  /-- Nothing. -/
  | kept {outcome : Except SlotError Unit} {slot' : Slot} {card' : VirtualCard}
    (refused : message.command? = some .powerOn → ∃ error, outcome = .error error)
    (powered : slot'.powered = slot.powered) (clock : slot'.clockStopped = slot.clockStopped)
    (present : card'.present = card.present) (active : card'.powered = card.powered)
    (running : card'.running = card.running) : Effect message slot card (outcome, slot', card')
  /-- The card is activated and its clock started. -/
  | activated {slot' : Slot} (command : message.command? = some .powerOn)
    (powered : slot'.powered = true) (clock : slot'.clockStopped = false)
    (present : card.present = true) :
    Effect message slot card (.ok (), slot', { card with powered := true, running := true })
  /-- The reader takes the card for inactive. -/
  | released {outcome : Except SlotError Unit} {slot' : Slot} {card' : VirtualCard}
    (powered : slot'.powered = false) (present : card'.present = card.present)
    (active : card'.powered = true → card.powered = true) :
    Effect message slot card (outcome, slot', card')
  /-- The clock is stopped or started. -/
  | clocked (running : Bool) (command : message.command? = some .iccClock) :
    Effect message slot card
      (.ok (), { slot with clockStopped := !running }, { card with running })

/-- An APDU changes neither the activation of a card nor its clock. -/
theorem receive_keeps (apdu : List UInt8) (room : Nat) (card : VirtualCard) :
    (card.receive apdu room).2.present = card.present ∧
      (card.receive apdu room).2.powered = card.powered ∧
      (card.receive apdu room).2.running = card.running := by
  unfold VirtualCard.receive
  split
  · exact ⟨rfl, rfl, rfl⟩
  dsimp only
  split
  · exact ⟨rfl, rfl, rfl⟩
  split <;> exact ⟨rfl, rfl, rfl⟩

/-- A card is activated, or it stays as it is. -/
theorem activate_cases (room : Nat) (card : VirtualCard) :
    (∃ error, card.activate room = (.error error, card)) ∨
      card.present = true ∧ ∃ filled, card.activate room =
        (.ok filled, { card with powered := true, running := true }) := by
  unfold VirtualCard.activate
  cases hpresent : card.present with
  | false => exact .inl ⟨_, rfl⟩
  | true =>
    cases hfilled : fill? room card.atr with
    | none => exact .inl ⟨_, rfl⟩
    | some filled => exact .inr ⟨rfl, filled, rfl⟩

theorem effect_powerOn (command : message.command? = some .powerOn) :
    Effect message slot card (Handled.void (powerOn message slot card)) := by
  unfold powerOn
  split
  · exact .kept (fun _ => ⟨_, rfl⟩) rfl rfl rfl rfl rfl
  rename_i voltage hchecked
  have hcard : SmartCard.powerOn voltage maxAtr card = card.activate maxAtr := rfl
  rw [hcard]
  rcases activate_cases maxAtr card with ⟨error, hfailed⟩ | ⟨hpresent, filled, hactive⟩
  · rw [hfailed]
    exact .released rfl rfl id
  · rw [hactive]
    exact .activated command rfl rfl hpresent

/-- Only a command to activate the card has to fail in order to change nothing. -/
theorem refused_of_ne {command : CommandType} {p : Prop}
    (hcommand : message.command? = some command) (hne : command ≠ .powerOn) :
    message.command? = some .powerOn → p := by
  intro hother
  rw [hcommand] at hother
  exact absurd (Option.some.inj hother) hne

theorem effect_powerOff (command : message.command? = some .powerOff) :
    Effect message slot card (powerOff message slot card) := by
  unfold powerOff
  split
  · exact .kept (refused_of_ne command nofun) rfl rfl rfl rfl rfl
  · exact .released rfl rfl nofun

theorem effect_xfrBlock (command : message.command? = some .xfrBlock) :
    Effect message slot card (Handled.void (xfrBlock message slot card)) := by
  unfold xfrBlock
  split
  · exact .kept (refused_of_ne command nofun) rfl rfl rfl rfl rfl
  have hcard : SmartCard.transmit message.payload maxPayload card =
      card.receive message.payload maxPayload := rfl
  obtain ⟨hpresent, hpowered, hrunning⟩ := receive_keeps message.payload maxPayload card
  rw [hcard]
  split
  · rename_i error after hreceived
    rw [hreceived] at hpresent hpowered hrunning
    exact .kept (refused_of_ne command nofun) rfl rfl hpresent hpowered hrunning
  · rename_i filled after hreceived
    rw [hreceived] at hpresent hpowered hrunning
    exact .kept (refused_of_ne command nofun) rfl rfl hpresent hpowered hrunning

theorem effect_iccClock (command : message.command? = some .iccClock) :
    Effect message slot card (iccClock message slot card) := by
  unfold iccClock
  split
  · exact .kept (refused_of_ne command nofun) rfl rfl rfl rfl rfl
  · exact .clocked _ command

/-- Every command does one of these things. -/
theorem effect_perform (message : Message) (slot : Slot) (card : VirtualCard) :
    Effect message slot card (perform message slot card) := by
  unfold perform
  cases hcommand : message.command? with
  | none =>
    have hother : message.command? ≠ some .powerOn := by simp [hcommand]
    exact .kept (fun h => absurd h hother) rfl rfl rfl rfl rfl
  | some command =>
    have hkept {outcome : Except SlotError Unit} {slot' : Slot} (hother : command ≠ .powerOn)
        (hpowered : slot'.powered = slot.powered)
        (hclock : slot'.clockStopped = slot.clockStopped) :
        Effect message slot card (outcome, slot', card) :=
      .kept (refused_of_ne hcommand hother) hpowered hclock rfl rfl rfl
    cases command with
    | powerOn => exact effect_powerOn hcommand
    | powerOff => exact effect_powerOff hcommand
    | xfrBlock => exact effect_xfrBlock hcommand
    | iccClock => exact effect_iccClock hcommand
    | resetParameters =>
      dsimp only
      unfold resetParameters
      split <;> exact hkept nofun rfl rfl
    | setParameters =>
      dsimp only
      unfold setParameters
      split <;> exact hkept nofun rfl rfl
    | setDataRate =>
      dsimp only
      unfold setDataRate
      split
      · exact hkept nofun rfl rfl
      · exact hkept nofun rfl rfl
    | _ => exact hkept nofun rfl rfl

end Slot

/-! ## A slot that is watched -/

/-- What can happen at a slot. -/
inductive Happening where
  /-- A message is carried out. -/
  | command (message : Message)
  /-- The card is put in or taken out. -/
  | presence (present : Bool)

/-- The slot and its card, watched by someone who sees the card being taken out. -/
structure Socket where
  /-- What the reader knows of the slot. -/
  slot : Slot := {}
  /-- The card. -/
  card : VirtualCard
  /-- Whether the card has been taken out since it was last activated. -/
  removed : Bool := false

namespace Socket

/-- A new reader with a new card. -/
def new (atr : List UInt8) (responder : Responder) : Socket := { card := { atr, responder } }

/-- The answer to a message. -/
def answer (socket : Socket) (message : Message) : Response :=
  (Slot.dispatch message socket.slot socket.card).1

/-- The message activates the card. -/
def Activates (socket : Socket) (message : Message) : Prop :=
  message.command? = some .powerOn ∧ (socket.answer message).failed = false

instance (socket : Socket) (message : Message) : Decidable (socket.Activates message) :=
  inferInstanceAs (Decidable (_ ∧ _))

/-- What a message leaves. -/
def carry (socket : Socket) (message : Message) : Socket :=
  let after := (Slot.dispatch message socket.slot socket.card).2
  { slot := after.1
    card := after.2
    removed := if socket.Activates message then false else socket.removed }

/-- What anything leaves. -/
def step (socket : Socket) : Happening → Socket
  | .command message => socket.carry message
  | .presence present =>
    { socket with
      card := socket.card.setPresent present
      removed := socket.removed || !present }

/-- What any number of things leave. -/
def run (socket : Socket) (happenings : List Happening) : Socket := happenings.foldl step socket

/-- The reader and the card agree, as far as the reader can know. -/
structure Agrees (socket : Socket) : Prop where
  inserted : socket.card.powered = true → socket.card.present = true
  clock : socket.slot.powered = true → socket.slot.clockStopped = !socket.card.running
  active : socket.slot.powered = true → (socket.card.powered = true ↔ socket.removed = false)

variable {socket : Socket}

theorem agrees_new (atr : List UInt8) (responder : Responder) : (new atr responder).Agrees :=
  ⟨nofun, nofun, nofun⟩

/-- The reader takes a slot for active only as long as it finds a card there. -/
theorem noticing_of_powered {slot : Slot} {card : VirtualCard}
    (h : (slot.noticing card).powered = true) : slot.noticing card = slot := by
  unfold Slot.noticing at h ⊢
  split at h
  · rename_i hpresent
    rw [if_pos hpresent]
  · cases h

/-- Only a card that is there can be reported as active, and only by a reader that has activated
it. -/
theorem iccStatus_eq_active {slot : Slot} {card : VirtualCard}
    (h : slot.iccStatus card = iccActive) : card.present = true ∧ slot.powered = true := by
  have hpresent : SmartCard.present card = card.present := rfl
  unfold Slot.iccStatus at h
  rw [hpresent] at h
  cases hcard : card.present with
  | false =>
    rw [hcard] at h
    cases h
  | true =>
    cases hslot : slot.powered with
    | false =>
      rw [hcard, hslot] at h
      cases h
    | true => exact ⟨rfl, rfl⟩

/-- A message leaves what its command leaves, and its answer tells what that is. -/
theorem carry_eq (socket : Socket) (message : Message) :
    let handled := Slot.perform message (socket.slot.noticing socket.card) socket.card
    socket.carry message =
        { slot := handled.2.1
          card := handled.2.2
          removed := if socket.Activates message then false else socket.removed } ∧
      Answers message (handled.2.1.iccStatus handled.2.2) handled.1 (socket.answer message) := by
  intro handled
  have hafter : (Slot.dispatch message socket.slot socket.card).2 = handled.2 :=
    Slot.snd_handle message (socket.slot.noticing socket.card) socket.card
  refine ⟨?_, Slot.answers_handle message (socket.slot.noticing socket.card) socket.card⟩
  rw [carry, hafter]

/-- A card is activated by a command to activate it that succeeds. -/
theorem activates_iff (socket : Socket) (message : Message) :
    socket.Activates message ↔ message.command? = some .powerOn ∧
      (Slot.perform message (socket.slot.noticing socket.card) socket.card).1 = .ok () := by
  obtain ⟨-, hanswers⟩ := carry_eq socket message
  have hfailed := hanswers.failed_iff
  unfold Activates
  rw [← Bool.not_eq_true, hfailed]
  cases (Slot.perform message (socket.slot.noticing socket.card) socket.card).1 with
  | ok => simp
  | error error => simp

theorem agrees_presence (h : socket.Agrees) (present : Bool) :
    (socket.step (.presence present)).Agrees := by
  have hactive := h.active
  cases present with
  | true =>
    refine ⟨fun _ => rfl, h.clock, ?_⟩
    intro hslot
    simpa [step, VirtualCard.setPresent] using hactive hslot
  | false =>
    refine ⟨?_, h.clock, ?_⟩
    · intro hcard
      simp [step, VirtualCard.setPresent] at hcard
    · intro hslot
      simp [step, VirtualCard.setPresent]

theorem agrees_carry (h : socket.Agrees) (message : Message) : (socket.carry message).Agrees := by
  have hactivates := activates_iff socket message
  have heffect := Slot.effect_perform message (socket.slot.noticing socket.card) socket.card
  rw [(carry_eq socket message).1]
  generalize Slot.perform message (socket.slot.noticing socket.card) socket.card = handled
    at hactivates heffect
  cases heffect with
  | @kept outcome slot card refused powered clock present active running =>
    have hnot : ¬socket.Activates message := by
      intro hactivated
      rcases hactivates.1 hactivated with ⟨hcommand, hok⟩
      rcases refused hcommand with ⟨error, herror⟩
      rw [herror] at hok
      cases hok
    have hsame (hpowered : slot.powered = true) : socket.slot.powered = true ∧
        slot.clockStopped = socket.slot.clockStopped := by
      rw [powered] at hpowered
      have hslot := noticing_of_powered hpowered
      rw [hslot] at hpowered
      exact ⟨hpowered, by rw [clock, hslot]⟩
    rw [if_neg hnot]
    refine ⟨?_, ?_, ?_⟩
    · intro hcard
      rw [present]
      exact h.inserted (active ▸ hcard)
    · intro hpowered
      rw [(hsame hpowered).2, running]
      exact h.clock (hsame hpowered).1
    · intro hpowered
      rw [active]
      exact h.active (hsame hpowered).1
  | activated command powered clock present =>
    rw [if_pos (hactivates.2 ⟨command, rfl⟩)]
    exact ⟨fun _ => present, fun _ => clock, fun _ => iff_of_true rfl rfl⟩
  | @released outcome slot card powered present active =>
    have hinactive {p : Prop} (hpowered : slot.powered = true) : p := by
      rw [powered] at hpowered
      cases hpowered
    exact ⟨fun hcard => present ▸ h.inserted (active hcard), hinactive, hinactive⟩
  | clocked running command =>
    have hnot : ¬socket.Activates message := by
      intro hactivated
      rw [command] at hactivates
      cases (hactivates.1 hactivated).1
    rw [if_neg hnot]
    refine ⟨h.inserted, fun _ => rfl, ?_⟩
    intro hpowered
    have hslot : (socket.slot.noticing socket.card).powered = true := hpowered
    rw [noticing_of_powered hslot] at hslot
    exact h.active hslot

/-- Whatever happens, they still agree. -/
theorem agrees_step (h : socket.Agrees) (happening : Happening) :
    (socket.step happening).Agrees := by
  cases happening with
  | command message => exact agrees_carry h message
  | presence present => exact agrees_presence h present

theorem agrees_run (h : socket.Agrees) (happenings : List Happening) :
    (socket.run happenings).Agrees := by
  induction happenings generalizing socket with
  | nil => exact h
  | cons happening rest ih => exact ih (agrees_step h happening)

/-- An answer that reports an active card is right about the presence of the card and about its
clock, and it is right about the activation if and only if the card has not been taken out since
it was activated. -/
theorem active_iff_kept (atr : List UInt8) (responder : Responder) (earlier : List Happening)
    (message : Message) :
    let before := (new atr responder).run earlier
    let after := before.carry message
    (before.answer message).status &&& 0x03 = iccActive →
      after.card.present = true ∧ after.slot.clockStopped = !after.card.running ∧
        (after.card.powered = true ↔ after.removed = false) := by
  intro before after hstatus
  have hbefore : before.Agrees := agrees_run (agrees_new atr responder) earlier
  have hagrees : after.Agrees := agrees_carry hbefore message
  obtain ⟨hcarry, hanswers⟩ := carry_eq before message
  have hicc : after.slot.iccStatus after.card = iccActive := by
    rw [← hstatus]
    show (before.carry message).slot.iccStatus (before.carry message).card = _
    rw [hcarry]
    exact hanswers.icc_eq.symm
  obtain ⟨hpresent, hpowered⟩ := iccStatus_eq_active hicc
  exact ⟨hpresent, hagrees.clock hpowered, hagrees.active hpowered⟩

/-- A card that has been activated and whose clock has been stopped is reported as active. -/
theorem active_with_stopped_clock :
    let activate : Message := { type := 0x62, headerReceived := true, received := headerSize }
    let stop : Message := { activate with type := 0x6E, params := ⟨0x01, 0, 0⟩ }
    let before := (new [0x3B, 0x02, 0x14, 0x50] .success).run [.command activate]
    let after := before.carry stop
    (before.answer stop).status &&& 0x03 = iccActive ∧ after.card.present = true ∧
      after.slot.clockStopped = true ∧ after.card.running = false ∧ after.card.powered = true := by
  intro activate stop before after
  have hstatus : (before.answer stop).status &&& 0x03 = iccActive := by decide
  obtain ⟨hpresent, hclock, hactive⟩ :=
    active_iff_kept [0x3B, 0x02, 0x14, 0x50] .success [.command activate] stop hstatus
  have hstopped : after.slot.clockStopped = true := by decide
  have hrunning : after.card.running = false := by
    rw [← Bool.not_eq_true', ← hclock, hstopped]
  exact ⟨hstatus, hpresent, hstopped, hrunning, hactive.2 (by decide)⟩

/-- A card that is activated, taken out and put in again is reported as active, which it is not. -/
theorem active_after_removal :
    let activate : Message := { type := 0x62, headerReceived := true, received := headerSize }
    let ask : Message := { activate with type := 0x65 }
    let before := (new [0x3B, 0x02, 0x14, 0x50] .success).run
      [.command activate, .presence false, .presence true]
    let after := before.carry ask
    (before.answer ask).failed = false ∧ (before.answer ask).status &&& 0x03 = iccActive ∧
      after.card.present = true ∧ after.card.powered = false := by
  decide

end Socket

end CardReader.Ccid
