import Mathlib.Data.List.Forall2
import CardReader.Ccid.VirtualCard
import CardReader.Proofs.Ccid.Exchange

/-!
# No response is lost

Packets, transfers to the host, aborts, teardowns and changes of the card may come in any order.
A journal of them is kept that shows only what can be seen from outside, and it always balances:
what has been answered is what has left the endpoints and what they still hold, in the same order.

What is proved here:

* `response_of_bulkOut` — a packet makes a response only if none is held, and never touches one;
* `held_append_made` — the responses that are made are those that leave and the one that is held;
* `echoes_of_opened` — each goes to the slot and the number of the packet that started its command;
* `journal_balances` — the whole of it for every run of a new reader.
-/

namespace CardReader.Ccid

/-! ## Runs and their journal -/

/-- What can happen to the endpoints. -/
inductive Event (κ : Type) where
  /-- The host sends a packet. -/
  | packet (bytes : List UInt8)
  /-- The host takes the response. -/
  | take
  /-- The host gives up the command that it was sending. -/
  | abort
  /-- The endpoints are torn down. -/
  | deinit
  /-- Something happens to the card. -/
  | card (change : κ → κ)

/-- What the journal says about an event. -/
inductive Entry where
  /-- A packet came in; this is what became of it and the response that is held after it. -/
  | packet (bytes : List UInt8) (outcome : PacketOutcome) (held : Option Response)
  /-- The host took what was held. -/
  | taken (response : Option Response)
  /-- A command was given up. -/
  | aborted
  /-- A teardown dropped what was held. -/
  | dropped (response : Option Response)
  /-- The card changed. -/
  | changed
  deriving DecidableEq

namespace Entry

/-- The entry shows an answer. -/
def answers : Entry → Bool
  | packet _ outcome _ => outcome.answers
  | _ => false

/-- The response that was made. -/
def made : Entry → Option Response
  | packet _ outcome held => if outcome.answers then held else none
  | _ => none

/-- The response that the host got. -/
def returned : Entry → Option Response
  | taken response => response
  | _ => none

/-- The response that was dropped. -/
def lost : Entry → Option Response
  | dropped response => response
  | _ => none

/-- The response that left the endpoints, one way or the other. -/
def settled (entry : Entry) : Option Response := entry.returned.or entry.lost

/-- The packet that started the command that is coming in, after the entry; `opened` is the one
before it. -/
def opens (opened : Option (List UInt8)) : Entry → Option (List UInt8)
  | packet bytes .needMore _ => opened.getD bytes
  | packet _ (.dispatched _) _ | packet _ .rejected _ => none
  | packet _ .ignored _ | packet _ .discarded _ => opened
  | aborted | dropped _ => none
  | taken _ | changed => opened

/-- The packet that started the command that was answered; `opened` is the one that started the
command coming in before the entry. -/
def closes (opened : Option (List UInt8)) : Entry → Option (List UInt8)
  | packet bytes outcome _ => if outcome.answers then opened.getD bytes else none
  | _ => none

end Entry

/-- The packets that started the commands that were answered. -/
def starts (opened : Option (List UInt8)) : List Entry → List (List UInt8)
  | [] => []
  | entry :: rest => (entry.closes opened).toList ++ starts (entry.opens opened) rest

/-- The response goes to the slot and the number that the packet asks for. -/
def Echoes (packet : List UInt8) (response : Response) : Prop :=
  ∃ header, CommandHeader.parse? packet = some header ∧
    response.slot = header.slot ∧ response.seq = header.seq

namespace Reassembler

variable {κ : Type} [SmartCard κ]

/-- One event. -/
def step (r : Reassembler κ) : Event κ → Entry × Reassembler κ
  | .packet bytes =>
    let (outcome, after) := r.bulkOut bytes
    (.packet bytes outcome after.response, after)
  | .take =>
    let (response, after) := r.bulkInComplete
    (.taken response, after)
  | .abort => (.aborted, r.abort)
  | .deinit => (.dropped r.response, r.deinit)
  | .card change => (.changed, { r with card := change r.card })

/-- One event after another. -/
def run (r : Reassembler κ) : List (Event κ) → List Entry × Reassembler κ
  | [] => ([], r)
  | event :: rest =>
    let (entry, after) := r.step event
    let (journal, last) := run after rest
    (entry :: journal, last)

theorem run_cons (r : Reassembler κ) (event : Event κ) (rest : List (Event κ)) :
    r.run (event :: rest) =
      ((r.step event).1 :: ((r.step event).2.run rest).1, ((r.step event).2.run rest).2) := rfl

theorem step_packet (r : Reassembler κ) (bytes : List UInt8) :
    r.step (.packet bytes) = (.packet bytes (r.bulkOut bytes).1 (r.bulkOut bytes).2.response,
      (r.bulkOut bytes).2) := rfl

/-! ## One event -/

/-- A packet that is answered finds no response and leaves one; any other leaves what it finds. -/
theorem response_of_bulkOut (r : Reassembler κ) (packet : List UInt8) :
    if (r.bulkOut packet).1.answers then
      r.response = none ∧ (r.bulkOut packet).2.response.isSome
    else (r.bulkOut packet).2.response = r.response := by
  have hfate := fate r packet
  generalize r.bulkOut packet = result at hfate
  cases hfate with
  | oversized | early | runt | discarded | kept => exact rfl
  | rejected piece | dispatched piece => exact ⟨piece.free, rfl⟩

theorem response_of_pending {r : Reassembler κ} (hpending : r.response.isSome)
    (packet : List UInt8) : (r.bulkOut packet).2.response = r.response := by
  have hresponse := response_of_bulkOut r packet
  split at hresponse
  · rw [hresponse.1] at hpending
    cases hpending
  · exact hresponse

/-- What is held and what is made is what leaves and what is held afterwards. -/
theorem response_of_step (r : Reassembler κ) (event : Event κ) :
    r.response.toList ++ (r.step event).1.made.toList =
      (r.step event).1.settled.toList ++ (r.step event).2.response.toList := by
  cases event with
  | packet bytes =>
    have hresponse := response_of_bulkOut r bytes
    simp only [step, Entry.made, Entry.settled, Entry.returned, Entry.lost, Option.or_self,
      Option.toList_none, List.nil_append]
    split at hresponse
    · rename_i hanswers
      rw [if_pos hanswers, hresponse.1, Option.toList_none, List.nil_append]
    · rename_i hanswers
      rw [if_neg hanswers, hresponse, Option.toList_none, List.append_nil]
  | take =>
    simp only [step, bulkInComplete, Entry.made, Entry.settled, Entry.returned, Entry.lost,
      Option.or_none]
  | abort => exact List.append_nil _
  | deinit =>
    simp only [step, deinit, Entry.made, Entry.settled, Entry.returned, Entry.lost, Option.none_or]
  | card change => exact List.append_nil _

/-- Every answer makes a response. -/
theorem isSome_made (r : Reassembler κ) (event : Event κ) :
    (r.step event).1.made.isSome = (r.step event).1.answers := by
  cases event with
  | packet bytes =>
    have hresponse := response_of_bulkOut r bytes
    simp only [step, Entry.made, Entry.answers]
    split at hresponse
    · rename_i hanswers
      rw [if_pos hanswers, hresponse.2, hanswers]
    · rename_i hanswers
      rw [if_neg hanswers, Bool.eq_false_iff.2 hanswers]
      rfl
  | take | abort | deinit | card => rfl

/-- The packet that started the command that is coming in, if there is one. -/
def Opened (r : Reassembler κ) (opened : Option (List UInt8)) : Prop :=
  match r.state with
  | .receivingData => ∃ packet header, opened = some packet ∧
      CommandHeader.parse? packet = some header ∧
      r.message.slot = header.slot ∧ r.message.seq = header.seq
  | .idle | .lengthError => opened = none

omit [SmartCard κ] in
/-- The packet that started a command that takes one more packet. -/
theorem start_of_extends {r : Reassembler κ} {opened : Option (List UInt8)}
    (hopened : r.Opened opened) {packet : List UInt8} {message : Message}
    (hextends : r.Extends packet message) :
    ∃ header, CommandHeader.parse? (opened.getD packet) = some header ∧
      message.slot = header.slot ∧ message.seq = header.seq := by
  cases hextends with
  | first state_eq free fits read =>
    rw [Opened, state_eq] at hopened
    rw [hopened]
    exact ⟨_, read, rfl, rfl⟩
  | next state_eq free fits =>
    rw [Opened, state_eq] at hopened
    obtain ⟨start, header, rfl, hread, hslot, hseq⟩ := hopened
    exact ⟨header, hread, hslot, hseq⟩

/-- An event keeps to the packet that started the command, and a response that is made goes to the
slot and the number of that packet. -/
theorem opened_step {r : Reassembler κ} {opened : Option (List UInt8)} (hopened : r.Opened opened)
    (event : Event κ) :
    (r.step event).2.Opened ((r.step event).1.opens opened) ∧
      List.Forall₂ Echoes ((r.step event).1.closes opened).toList
        (r.step event).1.made.toList := by
  cases event with
  | packet bytes =>
    have hfate := fate r bytes
    rw [step_packet]
    generalize r.bulkOut bytes = result at hfate
    cases hfate with
    | oversized | early | runt => exact ⟨hopened, .nil⟩
    | discarded state_eq =>
      rw [Opened, state_eq] at hopened
      exact ⟨hopened, .nil⟩
    | rejected piece =>
      obtain ⟨header, hread, hslot, hseq⟩ := start_of_extends hopened piece
      exact ⟨rfl, .cons ⟨header, hread, hslot, hseq⟩ .nil⟩
    | dispatched piece =>
      obtain ⟨header, hread, hslot, hseq⟩ := start_of_extends hopened piece
      rw [complete_eq]
      refine ⟨rfl, .cons ⟨header, hread, ?_, ?_⟩ .nil⟩
      · rw [← hslot]
        exact Slot.dispatch_slot _ _ _
      · rw [← hseq]
        exact Slot.dispatch_seq _ _ _
    | kept piece =>
      obtain ⟨header, hread, hslot, hseq⟩ := start_of_extends hopened piece
      exact ⟨⟨_, header, rfl, hread, hslot, hseq⟩, .nil⟩
  | take => exact ⟨hopened, .nil⟩
  | abort => exact ⟨rfl, .nil⟩
  | deinit => exact ⟨rfl, .nil⟩
  | card change => exact ⟨hopened, .nil⟩

/-! ## Any number of events -/

/-- What the journal collects from one entry comes before what it collects from the others. -/
theorem filterMap_entry {α : Type} (f : Entry → Option α) (entry : Entry) (journal : List Entry) :
    (entry :: journal).filterMap f = (f entry).toList ++ journal.filterMap f := by
  rw [List.filterMap_cons]
  cases f entry <;> rfl

theorem held_append_made (r : Reassembler κ) (events : List (Event κ)) :
    r.response.toList ++ (r.run events).1.filterMap Entry.made =
      (r.run events).1.filterMap Entry.settled ++ (r.run events).2.response.toList := by
  induction events generalizing r with
  | nil => exact List.append_nil _
  | cons event rest ih =>
    calc r.response.toList ++ (r.run (event :: rest)).1.filterMap Entry.made
        = (r.response.toList ++ (r.step event).1.made.toList) ++
            ((r.step event).2.run rest).1.filterMap Entry.made := by
          rw [run_cons, filterMap_entry, List.append_assoc]
      _ = (r.step event).1.settled.toList ++ ((r.step event).2.response.toList ++
            ((r.step event).2.run rest).1.filterMap Entry.made) := by
          rw [response_of_step, List.append_assoc]
      _ = (r.run (event :: rest)).1.filterMap Entry.settled ++
            (r.run (event :: rest)).2.response.toList := by
          rw [ih, run_cons, filterMap_entry, List.append_assoc]

theorem length_made (r : Reassembler κ) (events : List (Event κ)) :
    ((r.run events).1.filterMap Entry.made).length = (r.run events).1.countP Entry.answers := by
  induction events generalizing r with
  | nil => rfl
  | cons event rest ih =>
    have hmade := isSome_made r event
    rw [run_cons, filterMap_entry, List.length_append, List.countP_cons, ih, ← hmade, Nat.add_comm]
    cases (r.step event).1.made <;> rfl

/-- What leaves is returned or dropped. -/
theorem length_settled (journal : List Entry) : (journal.filterMap Entry.settled).length =
    (journal.filterMap Entry.returned).length + (journal.filterMap Entry.lost).length := by
  induction journal with
  | nil => rfl
  | cons entry rest ih =>
    have hentry : entry.settled.toList.length =
        entry.returned.toList.length + entry.lost.toList.length := by
      cases entry with
      | taken response => simp only [Entry.settled, Entry.returned, Entry.lost, Option.or_none]; rfl
      | dropped response => exact (Nat.zero_add _).symm
      | packet | aborted | changed => rfl
    simp only [filterMap_entry, List.length_append, ih, hentry]
    omega

theorem echoes_of_opened {r : Reassembler κ} {opened : Option (List UInt8)}
    (hopened : r.Opened opened) (events : List (Event κ)) :
    List.Forall₂ Echoes (starts opened (r.run events).1)
      ((r.run events).1.filterMap Entry.made) := by
  induction events generalizing r opened with
  | nil => exact .nil
  | cons event rest ih =>
    obtain ⟨hnext, hechoes⟩ := opened_step hopened event
    rw [run_cons, starts, filterMap_entry]
    exact List.rel_append hechoes (ih hnext)

/-- The journal of a new reader balances after any number of events: there have been as many
answers as responses were returned, dropped and are held; they leave in the order in which they
were made, and each goes to the slot and the number of the packet that started its command.  A
packet never touches a response that is held. -/
theorem journal_balances (card : κ) (events : List (Event κ)) :
    let journal := ((new card).run events).1
    let r := ((new card).run events).2
    journal.countP Entry.answers = (journal.filterMap Entry.returned).length +
        (journal.filterMap Entry.lost).length + r.response.toList.length ∧
      journal.filterMap Entry.made = journal.filterMap Entry.settled ++ r.response.toList ∧
      List.Forall₂ Echoes (starts none journal) (journal.filterMap Entry.made) ∧
      ∀ packet, r.response.isSome → (r.bulkOut packet).2.response = r.response := by
  intro journal r
  have hmade : journal.filterMap Entry.made =
      journal.filterMap Entry.settled ++ r.response.toList := held_append_made (new card) events
  have hopened : (new card).Opened none := rfl
  have hechoes : List.Forall₂ Echoes (starts none journal) (journal.filterMap Entry.made) :=
    echoes_of_opened hopened events
  refine ⟨?_, hmade, hechoes, fun packet hpending => response_of_pending hpending packet⟩
  rw [← length_settled, ← List.length_append, ← hmade]
  exact (length_made (new card) events).symm

/-- A response is taken, one is dropped and a third is held, which a fourth command does not
touch. -/
theorem journal_of_four_commands :
    let command (type seq : UInt8) (length : Nat) : Event VirtualCard :=
      .packet (⟨type, length, 0, seq, {}⟩ : CommandHeader).bytes
    let run := (new ({} : VirtualCard)).run
      [command 0x62 1 0, .take, command 0x65 2 0, .deinit, command 0x6F 3 1000, .abort]
    (run.1.filterMap Entry.returned).map Response.bytes =
        [[0x80, 4, 0, 0, 0, 0, 1, 0, 0, 0, 0x3B, 0x02, 0x14, 0x50]] ∧
      (run.1.filterMap Entry.lost).map Response.bytes = [[0x81, 0, 0, 0, 0, 0, 2, 0, 0, 0]] ∧
      run.1.countP Entry.answers = 3 ∧
      run.2.response.map Response.bytes = some [0x81, 0, 0, 0, 0, 0, 3, 0x40, 0x08, 0] ∧
      (run.2.bulkOut (⟨0x65, 0, 0, 4, {}⟩ : CommandHeader).bytes).2.response = run.2.response := by
  intro command run
  obtain ⟨hcount, hmade, hechoes, hkept⟩ := journal_balances ({} : VirtualCard)
    [command 0x62 1 0, .take, command 0x65 2 0, .deinit, command 0x6F 3 1000, .abort]
  have hpending : run.2.response.isSome := by decide
  exact ⟨by decide, by decide, by decide, by decide, hkept _ hpending⟩

end Reassembler

end CardReader.Ccid
