import CardReader.Proofs.Program.Run
import CardReader.Proofs.Reachable
import CardReader.Proofs.Recorded

/-!
# The channel of a program

A program that is fed by DMA claims a channel for each piece of its plan, loads the piece into it
once and gives the channel back, however the piece ends.  A claim that is refused ends the program,
and what was not claimed is not given back.

What is proved here:

* `claims_programChunk` — a piece that is staged through the register names no channel;
* `records_claims_programChunkDma` — the calls of one piece are one scope, or a refused claim;
* `claims_program` — those of a program are scopes one after another, on any bus; and a part has
  the same channel claimed after a program as before it.
-/

namespace CardReader.Flash

/-! ## Calls that name a channel -/

/-- The call claims, loads or gives back a DMA channel. -/
def Event.namesChannel : Event → Bool
  | .acquire _ _ | .start _ _ _ | .release _ => true
  | _ => false

/-- The calls that name a DMA channel, in the order in which they were made. -/
def Record.claims (record : Record) : List Event := (record.filter Event.namesChannel).reverse

namespace Record

variable {event : Event}

theorem claims_cons_of_plain (h : event.namesChannel = false) (record : Record) :
    claims (event :: record) = claims record := by
  rw [claims, List.filter_cons_of_neg (by rw [h]; exact Bool.false_ne_true), claims]

theorem claims_cons (h : event.namesChannel = true) (record : Record) :
    claims (event :: record) = claims record ++ [event] := by
  rw [claims, List.filter_cons_of_pos h, List.reverse_cons, claims]

end Record

/-- The calls are those of blocks that were each loaded into the channel once, between a claim that
was granted and the return of the channel. -/
inductive Scoped (channel : Nat) : (blocks : List (List UInt8)) → (calls : List Event) → Prop
  | nil : Scoped channel [] []
  | scope {blocks : List (List UInt8)} {calls : List Event} (block : List UInt8) (accepted : Bool)
    (rest : Scoped channel blocks calls) :
    Scoped channel (block :: blocks)
      (.acquire channel true :: .start channel block accepted :: .release channel :: calls)

/-- The same, where the last call may also be a claim that was refused. -/
def Balanced (channel : Nat) (blocks : List (List UInt8)) (calls : List Event) : Prop :=
  Scoped channel blocks calls ∨
    ∃ before, calls = before ++ [.acquire channel false] ∧ Scoped channel blocks before

namespace Scoped

variable {channel : Nat} {blocks : List (List UInt8)} {calls : List Event}

theorem append {more : List (List UInt8)} {later : List Event} (h : Scoped channel blocks calls)
    (hlater : Scoped channel more later) :
    Scoped channel (blocks ++ more) (calls ++ later) := by
  induction h with
  | nil => exact hlater
  | scope block accepted rest ih => exact ih.scope block accepted

/-- One more block has been loaded, with whatever success. -/
theorem snoc (h : Scoped channel blocks calls) (block : List UInt8) (accepted : Bool) :
    Scoped channel (blocks ++ [block])
      (calls ++ [.acquire channel true, .start channel block accepted, .release channel]) :=
  h.append (Scoped.nil.scope block accepted)

end Scoped

/-- Transactions and the emptying of the FIFOs name no channel. -/
theorem Record.overlooks_claims : Record.Overlooks Record.claims where
  issue _ _ := claims_cons_of_plain rfl
  poll _ := claims_cons_of_plain rfl
  flush := claims_cons_of_plain rfl

namespace Controller

variable {σ : Type} [Bus σ] {config : ControllerConfig} {before : Record}

open Op Sequence

/-! ## Pieces -/

/-- A piece that is staged through the register names no channel. -/
theorem claims_programChunk (addr : Nat) (data : List UInt8) :
    Op.Unseen Record.claims (programChunk config addr data : Op (Recorded σ) Unit) := by
  have h := Record.overlooks_claims
  refine unseen_bind (unseen_writeEnable h _) fun _ => unseen_bind (unseen_flush h) fun _ => ?_
  refine unseen_bind (unseen_note (fun _ => Record.claims_cons_of_plain rfl) _) fun _ => ?_
  exact unseen_bind (unseen_transact h _ _) fun _ => unseen_waitReady h _

/-- A piece that is fed by DMA is one scope if its claim is granted; if it gets that far, a claim
that is refused is its last call. -/
theorem records_claims_programChunkDma {blocks : List (List UInt8)} (addr : Nat)
    (data : List UInt8) (h : Scoped config.dmaChannel blocks before.claims) :
    Records (programChunkDma config addr data : Op (Recorded σ) Unit) before
      (fun _ after => Scoped config.dmaChannel (blocks ++ [data]) after.claims)
      (fun after => Balanced config.dmaChannel blocks after.claims ∨
        Balanced config.dmaChannel (blocks ++ [data]) after.claims) := by
  let channel := config.dmaChannel
  have hoverlooks := Record.overlooks_claims
  refine records_bind (((unseen_writeEnable hoverlooks config.poll).records before).mono_err ?_) ?_
  · intro after hafter
    rw [hafter]
    exact .inl (.inl h)
  intro _ enabled henabled
  rw [← henabled] at h
  have hscope {accepted : Bool} {after : Record}
      (hafter : after.claims = enabled.claims ++
        [.acquire channel true, .start channel data accepted]) :
      Scoped channel (blocks ++ [data]) (Record.claims (.release channel :: after)) := by
    rw [Record.claims_cons rfl, hafter, List.append_assoc]
    exact h.snoc data accepted
  have hbody : Records (withChannel channel do
      Op.update Bus.flushFifos
      Op.call (Bus.dmaStart · channel data)
      let _ ← transact (programCommand config addr data.length) config.poll
      waitIdle channel config.poll : Op (Recorded σ) Unit) enabled
      (fun _ after => Scoped channel (blocks ++ [data]) after.claims)
      (fun after => Balanced channel blocks after.claims ∨
        Balanced channel (blocks ++ [data]) after.claims) := by
    refine records_withChannel (.inl (.inl h)) (.inl (.inr ⟨_, Record.claims_cons rfl _, h⟩)) ?_
    refine records_flush_bind ?_
    have hstarted (accepted : Bool) : Record.claims
        (.start channel data accepted :: .flush :: .acquire channel true :: enabled) =
          enabled.claims ++ [.acquire channel true, .start channel data accepted] := by
      rw [Record.claims_cons rfl, Record.claims_cons_of_plain rfl, Record.claims_cons rfl,
        List.append_assoc]
      rfl
    refine records_note_bind (fun _ => ?_) fun _ => .inr (.inl (hscope (hstarted false)))
    refine records_bind (((unseen_transact hoverlooks _ config.poll).records _).mono_err ?_) ?_
    · intro after hafter
      exact .inr (.inl (hscope (hafter.trans (hstarted true))))
    intro _ programmed hprogrammed
    have hdone := hprogrammed.trans (hstarted true)
    refine (records_waitIdle channel config.poll).mono ?_ ?_
    · rintro _ _ rfl
      exact hscope hdone
    · rintro _ rfl
      exact .inr (.inl (hscope hdone))
  refine records_bind hbody fun _ released hreleased => ?_
  refine ((unseen_waitReady hoverlooks config.poll).records released).mono ?_ ?_
  · intro _ after hafter
    rw [hafter]
    exact hreleased
  · intro after hafter
    rw [hafter]
    exact .inr (.inl hreleased)

/-- The blocks that pieces load into the channel. -/
def blocksOf (useDma : Bool) (pieces : List Piece) : List (List UInt8) :=
  if useDma then pieces.map Piece.data else []

theorem records_claims_sendPiece {useDma : Bool} {sent : List Piece} (piece : Piece)
    (h : Scoped config.dmaChannel (blocksOf useDma sent) before.claims) :
    Records (sendPiece config useDma piece : Op (Recorded σ) Unit) before
      (fun _ after =>
        Scoped config.dmaChannel (blocksOf useDma (sent ++ [piece])) after.claims)
      (fun after => Balanced config.dmaChannel (blocksOf useDma sent) after.claims ∨
        Balanced config.dmaChannel (blocksOf useDma (sent ++ [piece])) after.claims) := by
  cases useDma with
  | true =>
    have hblocks : blocksOf true (sent ++ [piece]) = blocksOf true sent ++ [piece.data] :=
      List.map_append
    rw [hblocks]
    exact records_claims_programChunkDma piece.addr piece.data h
  | false =>
    refine ((claims_programChunk piece.addr piece.data).records before).mono ?_ ?_
    · intro _ after hafter
      rw [hafter]
      exact h
    · intro after hafter
      rw [hafter]
      exact .inl (.inl h)

/-! ## Programs -/

/-- Piece by piece the calls grow by scopes. -/
theorem carries_claims (useDma : Bool) (pieces : List Piece) :
    Carries config useDma pieces
      (fun sent (r : Rig (Recorded σ)) =>
        Scoped config.dmaChannel (blocksOf useDma sent) r.bus.record.claims)
      fun _ r => ∃ sent rest, pieces = sent ++ rest ∧
        Balanced config.dmaChannel (blocksOf useDma sent) r.bus.record.claims := by
  refine ⟨fun _ _ _ h => h, ?_⟩
  intro sent piece rest r hplan h
  refine (records_claims_sendPiece piece h r rfl).mono (fun _ _ hafter => hafter) ?_
  rintro _ after (hbefore | hafter)
  · exact ⟨sent, piece :: rest, hplan, hbefore⟩
  · refine ⟨sent ++ [piece], rest, ?_, hafter⟩
    rw [hplan, List.append_assoc]
    rfl

/-- Whatever the bus answers, a program gives back each channel that it has claimed before it
claims another or ends, loads blocks only in between, and gives back nothing that it was refused:
its scopes are the pieces of its plan, all of them if it answers.  A part therefore has the same
channel claimed after a program as before it. -/
theorem claims_program (config : ControllerConfig) (base : Nat) (payload : List UInt8)
    (useDma : Bool) (cipher : CipherMode) (bus : σ) (clock : Clock) :
    let recorded : Rig (Recorded σ) := { bus := { bus }, clock }
    let pieces := plan base useDma (Cipher.encipher payload cipher)
    Prod.map id (Rig.map Recorded.bus) (program config base payload useDma cipher recorded) =
        program config base payload useDma cipher { bus, clock } ∧
      Ends (program config base payload useDma cipher) recorded
        (fun _ r => Scoped config.dmaChannel (blocksOf useDma pieces) r.bus.record.claims)
        (fun _ r => ∃ sent rest, pieces = sent ++ rest ∧
          Balanced config.dmaChannel (blocksOf useDma sent) r.bus.record.claims) ∧
      ∀ rig : Rig Part,
        (program config base payload useDma cipher rig).2.bus.dma.map Part.DmaClaim.channel =
          rig.bus.dma.map Part.DmaClaim.channel := by
  intro recorded pieces
  refine ⟨(mirrors_program config base payload useDma cipher recorded).symm, ?_, ?_⟩
  · have hnone : Scoped config.dmaChannel (blocksOf useDma []) recorded.bus.record.claims := by
      cases useDma
      · exact .nil
      · exact .nil
    by_cases hpasses : Passes config base payload useDma cipher (Bus.features recorded.bus)
    · exact (ends_program_of_passes hpasses hnone (carries_claims useDma pieces)).imp
        fun _ _ h => h.2
    · refine (ends_program_of_not_passes hpasses).mono (fun _ _ h => h.elim) ?_
      rintro _ r ⟨rfl, -⟩
      exact ⟨[], pieces, rfl, .inl hnone⟩
  · intro rig
    exact congrArg Part.Shape.claim (shape_program config base payload useDma cipher rig)

end Controller

end CardReader.Flash
