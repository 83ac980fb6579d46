import Mathlib.Data.List.Induction
import CardReader.Ccid.Notifier

/-!
# Notifications along a history

A notifier keeps two latches: whether a change is waiting to be reported, and whether the last
notification has gone out.  What they stand for can be read off the history alone: a change is
waiting if one has come in since the last notification, and the endpoint is free if the transfer of
that notification has been completed since.

What is proved here:

* `since_append` — how one more event bears on what has happened since the last notification;
* `follows_history` — the latches of a notifier after any history;
* `notices_of_history` — which polls are answered, and with what; changes may be reported together,
  but the host always comes to know the latest one.
-/

namespace CardReader.Ccid.Notifier

/-! ## Histories -/

/-- What happens to a notifier. -/
inductive Event where
  /-- A card is inserted or removed. -/
  | change (present : Bool)
  /-- The interrupt endpoint asks for a notification. -/
  | poll
  /-- The last notification has gone out. -/
  | complete

namespace Event

/-- Whether the card is there, if the event tells. -/
def present? : Event → Option Bool
  | change present => some present
  | poll | complete => none

/-- A card is inserted or removed. -/
def IsChange (event : Event) : Prop := ∃ present, event = change present

/-- The last notification has gone out. -/
def IsComplete (event : Event) : Prop := event = complete

end Event

/-- The notifier after an event. -/
def step (notifier : Notifier) : Event → Notifier
  | .change present => notifier.change present
  | .poll => notifier.poll.2
  | .complete => notifier.complete

/-- The notification that an event brings out. -/
def notice? (notifier : Notifier) : Event → Option (List UInt8)
  | .poll => notifier.poll.1
  | .change _ | .complete => none

/-- The notifications that events bring out, oldest first. -/
def notices (notifier : Notifier) : List Event → List (List UInt8)
  | [] => []
  | event :: rest => (notifier.notice? event).toList ++ (notifier.step event).notices rest

/-- The notifier after a history that starts with a card present or absent. -/
def after (initial : Bool) (history : List Event) : Notifier := history.foldl step (start initial)

/-- Whether a card is there, by the latest change or else as at the start. -/
def presence (initial : Bool) (history : List Event) : Bool :=
  (history.filterMap Event.present?).getLastD initial

/-- The notification of a state: it has changed, and a card is present or not. -/
def report (present : Bool) : List UInt8 :=
  [notifySlotChange, if present then changedBit ||| presentBit else changedBit]

/-- Every event that brought out a notification was followed by one of a kind. -/
def Since (initial : Bool) (history : List Event) (kind : Event → Prop) : Prop :=
  ∀ before event later, history = before ++ event :: later →
    ((after initial before).notice? event).isSome → ∃ follower ∈ later, kind follower

variable {initial : Bool} {history : List Event} {event : Event} {kind : Event → Prop}

/-! ## One more event -/

theorem after_append (initial : Bool) (history : List Event) (event : Event) :
    after initial (history ++ [event]) = (after initial history).step event := by
  rw [after, List.foldl_append]
  rfl

theorem notices_append (history : List Event) (event : Event) :
    ∀ notifier : Notifier, notifier.notices (history ++ [event]) =
      notifier.notices history ++ ((history.foldl step notifier).notice? event).toList := by
  induction history with
  | nil => exact fun notifier => List.append_nil _
  | cons first rest ih =>
    intro notifier
    rw [List.cons_append, notices, ih, notices, List.append_assoc]
    rfl

theorem presence_append (initial : Bool) (history : List Event) (event : Event) :
    presence initial (history ++ [event]) = event.present?.getD (presence initial history) := by
  rw [presence, List.filterMap_append]
  cases event with
  | change present => exact List.getLastD_concat
  | poll => rw [List.filterMap_cons_none rfl, List.filterMap_nil, List.append_nil]; rfl
  | complete => rw [List.filterMap_cons_none rfl, List.filterMap_nil, List.append_nil]; rfl

/-- A notification starts the count again, and any other event can only be the one looked for. -/
theorem since_append : Since initial (history ++ [event]) kind ↔
    (after initial history).notice? event = none ∧ (kind event ∨ Since initial history kind) := by
  constructor
  · intro h
    refine ⟨?_, ?_⟩
    · cases hnotice : (after initial history).notice? event with
      | none => rfl
      | some notice =>
        obtain ⟨_, hmem, -⟩ := h history event [] rfl (by rw [hnotice]; rfl)
        cases hmem
    · by_cases hkind : kind event
      · exact .inl hkind
      refine .inr fun before first later hhistory hnotice => ?_
      obtain ⟨follower, hmem, hfollower⟩ := h before first (later ++ [event])
        (by rw [hhistory, List.append_assoc]; rfl) hnotice
      rcases List.mem_append.1 hmem with hlater | hlast
      · exact ⟨follower, hlater, hfollower⟩
      · rw [List.mem_singleton.1 hlast] at hfollower
        exact absurd hfollower hkind
  · rintro ⟨hnone, hkind⟩ before first later hhistory hnotice
    rcases List.eq_nil_or_concat later with rfl | ⟨others, last, rfl⟩
    · -- the last event itself brought out nothing
      obtain ⟨rfl, hfirst⟩ := List.append_inj' hhistory rfl
      cases hfirst
      rw [hnone] at hnotice
      cases hnotice
    · rw [List.concat_eq_append] at hhistory ⊢
      rw [← List.cons_append, ← List.append_assoc] at hhistory
      obtain ⟨rfl, hlast⟩ := List.append_inj' hhistory rfl
      cases hlast
      rcases hkind with hkind | hsince
      · exact ⟨event, List.mem_append_right _ List.mem_cons_self, hkind⟩
      · obtain ⟨follower, hmem, hfollower⟩ := hsince before first others rfl hnotice
        exact ⟨follower, List.mem_append_left _ hmem, hfollower⟩

/-! ## The latches -/

/-- A poll brings out the notification of the present state if both latches are set. -/
theorem poll_eq (notifier : Notifier) : notifier.poll =
    if notifier.pending = true ∧ notifier.idle = true then
      (some (report notifier.present), { notifier with pending := false, idle := false })
    else (none, notifier) := by
  simp only [poll, report, Bool.and_eq_true]
  cases notifier.present <;> rfl

/-- The latches of a notifier say what its history says. -/
structure Follows (notifier : Notifier) (initial : Bool) (history : List Event) : Prop where
  /-- It knows the latest change. -/
  present_eq : notifier.present = presence initial history
  /-- A change is waiting if there has been one since the last notification. -/
  pending_iff : notifier.pending = true ↔ Since initial history Event.IsChange
  /-- The endpoint is free if the last notification has gone out. -/
  idle_iff : notifier.idle = true ↔ Since initial history Event.IsComplete
  /-- The host knows the present state unless a change is waiting. -/
  told : notifier.pending = false →
    ((start initial).notices history).getLast? = some (report notifier.present)

theorem follows_start (initial : Bool) : (start initial).Follows initial [] := by
  have hsince (kind : Event → Prop) : Since initial [] kind := by
    intro before event later hhistory
    cases before <;> cases hhistory
  exact ⟨rfl, iff_of_true rfl (hsince _), iff_of_true rfl (hsince _), nofun⟩

/-- An event that brings out nothing leaves the notifications as they are. -/
theorem getLast?_notices_append (hnone : (after initial history).notice? event = none) :
    ((start initial).notices (history ++ [event])).getLast? =
      ((start initial).notices history).getLast? := by
  rw [notices_append, show history.foldl step (start initial) = after initial history from rfl,
    hnone, Option.toList_none, List.append_nil]

/-- A poll that brings out a notification makes it the last one. -/
theorem getLast?_notices_poll {notice : List UInt8}
    (hnotice : (after initial history).poll.1 = some notice) :
    ((start initial).notices (history ++ [.poll])).getLast? = some notice := by
  rw [notices_append, show history.foldl step (start initial) = after initial history from rfl,
    notice?, hnotice, Option.toList_some, List.getLast?_concat]

/-- The latches go on to say what the history says. -/
theorem Follows.step (h : (after initial history).Follows initial history) (event : Event) :
    (after initial (history ++ [event])).Follows initial (history ++ [event]) := by
  have hlast := after_append initial history event
  have hpresence := presence_append initial history event
  generalize after initial (history ++ [event]) = last at hlast
  obtain ⟨hpresent, hpending, hidle, htold⟩ := h
  cases event with
  | change present =>
    subst hlast
    refine ⟨hpresence.symm, ?_, ?_, nofun⟩
    · exact iff_of_true rfl (since_append.2 ⟨rfl, .inl ⟨present, rfl⟩⟩)
    · rw [since_append]
      exact hidle.trans ⟨fun h => ⟨rfl, .inr h⟩, fun h => h.2.resolve_left nofun⟩
  | complete =>
    subst hlast
    refine ⟨hpresent.trans hpresence.symm, ?_, ?_, ?_⟩
    · rw [since_append]
      exact hpending.trans ⟨fun h => ⟨rfl, .inr h⟩, fun h => h.2.resolve_left nofun⟩
    · exact iff_of_true rfl (since_append.2 ⟨rfl, .inl rfl⟩)
    · intro hreported
      rw [getLast?_notices_append rfl]
      exact htold hreported
  | poll =>
    have hpoll := poll_eq (after initial history)
    by_cases hdue : (after initial history).pending = true ∧ (after initial history).idle = true
    · rw [if_pos hdue] at hpoll
      have hnotice : (after initial history).notice? .poll ≠ none := by
        rw [notice?, hpoll]
        nofun
      rw [show last = _ from hlast, Notifier.step, hpoll]
      refine ⟨hpresent.trans hpresence.symm, ?_, ?_, fun _ => ?_⟩
      · exact iff_of_false nofun fun h => hnotice (since_append.1 h).1
      · exact iff_of_false nofun fun h => hnotice (since_append.1 h).1
      · exact getLast?_notices_poll (by rw [hpoll])
    · rw [if_neg hdue] at hpoll
      have hnone : (after initial history).notice? .poll = none := by
        rw [notice?, hpoll]
      rw [show last = _ from hlast, Notifier.step, hpoll]
      refine ⟨hpresent.trans hpresence.symm, ?_, ?_, ?_⟩
      · rw [since_append]
        exact hpending.trans ⟨fun h => ⟨hnone, .inr h⟩, fun h => h.2.resolve_left nofun⟩
      · rw [since_append]
        exact hidle.trans ⟨fun h => ⟨hnone, .inr h⟩, fun h => h.2.resolve_left nofun⟩
      · rw [getLast?_notices_append hnone]
        exact htold

/-- After any history the latches say what it says. -/
theorem follows_history (initial : Bool) (history : List Event) :
    (after initial history).Follows initial history := by
  induction history using List.reverseRecOn with
  | nil => exact follows_start initial
  | append_singleton earlier event ih => exact ih.step event

/-! ## Notifications -/

/-- A poll after any history is answered if, since each notification before, a change has come in
and the transfer has been completed, and its answer is the presence by the latest change.  As long
as no change is waiting, that presence is what the host was told last; and once the transfer of the
last notification has been completed, the next poll leaves the host knowing it. -/
theorem notices_of_history (initial : Bool) (history : List Event) :
    let notifier := after initial history
    let latest := report (presence initial history)
    (∀ notice, notifier.poll.1 = some notice ↔
      notice = latest ∧ Since initial history Event.IsChange ∧
        Since initial history Event.IsComplete) ∧
      (notifier.pending = false → ((start initial).notices history).getLast? = some latest) ∧
      (Since initial history Event.IsComplete →
        ((start initial).notices (history ++ [.poll])).getLast? = some latest) := by
  intro notifier latest
  obtain ⟨hpresent, hpending, hidle, htold⟩ := follows_history initial history
  have hdue := and_congr hpending hidle
  have hpoll := poll_eq notifier
  rw [show notifier.present = presence initial history from hpresent] at hpoll
  rw [hpresent] at htold
  refine ⟨fun notice => ?_, htold, fun hcompleted => ?_⟩
  · rw [hpoll, ← hdue]
    split
    · rename_i hboth
      exact ⟨fun h => ⟨(Option.some.inj h).symm, hboth⟩, fun h => congrArg some h.1.symm⟩
    · rename_i hnot
      exact iff_of_false nofun fun h => hnot h.2
  · by_cases hchanged : notifier.pending = true
    · rw [if_pos ⟨hchanged, hidle.2 hcompleted⟩] at hpoll
      exact getLast?_notices_poll (congrArg Prod.fst hpoll)
    · rw [if_neg fun h => hchanged h.1] at hpoll
      have hnone : notifier.notice? .poll = none := congrArg Prod.fst hpoll
      rw [getLast?_notices_append hnone]
      exact htold (Bool.eq_false_iff.2 hchanged)

/-- Three changes come in before the first notification has gone out, and are reported together. -/
theorem notices_of_three_changes :
    let history : List Event := [.poll, .change false, .change true, .change false, .complete]
    Since true history Event.IsComplete ∧
      (after true history).poll.1 = some [0x50, 0x02] ∧
      ((start true).notices (history ++ [.poll])).getLast? = some [0x50, 0x02] ∧
      (start true).notices (history ++ [.poll]) = [[0x50, 0x03], [0x50, 0x02]] := by
  intro history
  have hcompleted : Since true history Event.IsComplete :=
    (follows_history true history).idle_iff.1 rfl
  have hchanged : Since true history Event.IsChange :=
    (follows_history true history).pending_iff.1 rfl
  obtain ⟨hanswer, -, htold⟩ := notices_of_history true history
  exact ⟨hcompleted, (hanswer _).2 ⟨rfl, hchanged, hcompleted⟩, htold hcompleted, by decide⟩

end CardReader.Ccid.Notifier
