import CardReader.Proofs.Program.Containment

/-!
# A program that begins too early

A part that is not listening when a program begins misses the first piece of the plan, and only
that: the wait behind it ends when the part is listening, and every later piece is programmed.  A
piece that is fed by DMA cannot be missed in silence, since its block does not drain.

What is proved here:

* `ends_program_unheard` — what a program leaves that has answered although the part was not
  listening at its start.
-/

namespace CardReader

open Flash

namespace Flash.Controller

variable {σ : Type} [Bus σ] [Carrier σ] {config : ControllerConfig} {base : Nat}
  {payload : List UInt8} {useDma : Bool} {cipher : CipherMode} {enciphered : Cipher.Enciphered}
  {rig : Rig σ}

/-- Some pieces of a program have been sent to a part that was not listening at the start: nothing
has been done yet, or all but the first piece has been programmed. -/
inductive Belated (base : Nat) (useDma : Bool) (rig : Rig σ) : List Piece → Rig σ → Prop
  | unsent {r : Rig σ} (clock_eq : r.clock = rig.clock) (bus_eq : r.bus = rig.bus) :
    Belated base useDma rig [] r
  | missed {first : Piece} {rest : List Piece} {r : Rig σ} (undriven : useDma = false)
    (steady : Part.Steady rig.part r.part) (listening : Part.Listening r.clock r.part)
    (programmed : Part.Cells.Programmed rig.part.cells r.part.cells (base + first.data.length)
      (bytes rest)) :
    Belated base useDma rig (first :: rest) r

theorem carries_belated (hlisten : ¬Part.Listening rig.clock rig.part)
    (hmode : config.programMode.check rig.part.features = .ok ())
    (htail : TailFits (base + enciphered.body.length) enciphered.tail)
    (hspace : base + enciphered.image.length ≤ addressSpace)
    (hfit : base + enciphered.image.length ≤ rig.part.cells.size) :
    Carries config useDma (plan base useDma enciphered) (Belated base useDma rig)
      fun _ _ => True := by
  refine ⟨fun sent r event h => ?_, fun sent piece rest r hplan h => ?_⟩
  · cases h with
    | unsent hclock hbus => exact .unsent hclock hbus
    | missed hdma hsteady hlistening hprogrammed =>
      exact .missed hdma hsteady hlistening hprogrammed
  obtain ⟨haddr, -, hend, -, hproper, -⟩ := split_plan htail hplan
  have hpos := List.length_pos_iff.2 hproper.nonempty
  cases h with
  | unsent hclock hbus =>
    have hpart : r.part = rig.part := congrArg Carrier.part hbus
    refine (ends_sendPiece (hpart ▸ hmode) hproper (by omega)
      (by rw [hpart]; omega)).mono ?_ fun _ _ _ => trivial
    intro _ r' hsettled
    have hmissed := hsettled.missed (by rwa [hclock, hpart])
    refine .missed hmissed.1 (hpart ▸ hsettled.steady) hsettled.listening ?_
    rw [hmissed.2, hpart]
    exact Part.Cells.programmed_nil _ _
  | @missed first sent _ hdma hsteady hlistening hprogrammed =>
    refine (ends_sendPiece (by rwa [hsteady.features_eq]) hproper (by omega)
      (by rw [hprogrammed.size_eq]; omega)).mono ?_ fun _ _ _ => trivial
    intro _ r' hsettled
    have hfired := hsettled.fired hlistening
    rw [haddr, bytes_cons, List.length_append, ← Nat.add_assoc] at hfired
    rw [List.cons_append]
    refine .missed hdma (hsteady.trans hsettled.steady) hsettled.listening ?_
    rw [bytes_append, bytes_cons, bytes_nil, List.append_nil]
    exact hprogrammed.append hfired

/-- A program that answers although the part was not listening at its start has missed the first
piece of its plan, and has programmed the others. -/
theorem ends_program_unheard (hlisten : ¬Part.Listening rig.clock rig.part)
    (hfit : base + Cipher.paddedLength payload.length cipher ≤ rig.part.cells.size) :
    Op.Ends (program config base payload useDma cipher) rig
      (fun _ r => Belated base useDma rig
        (plan base useDma (Cipher.encipher payload cipher)) r) fun _ _ => True := by
  have hlength := Cipher.length_image payload cipher
  have hfeatures : Bus.features rig.bus = rig.part.features := Carrier.features_eq rig.bus
  by_cases hpasses : Passes config base payload useDma cipher (Bus.features rig.bus)
  · have hspace := (checkProgram_eq_ok_iff.1 hpasses.check_eq).2.1
    exact (ends_program_of_passes hpasses (.unsent rfl rfl) (carries_belated hlisten
      (hfeatures ▸ hpasses.mode) hpasses.tailFits (by omega) (by omega))).mono
      (fun _ _ h => h.2) fun _ _ h => h
  · exact (ends_program_of_not_passes hpasses).mono (fun _ _ h => h.elim) fun _ _ _ => trivial

end Flash.Controller

end CardReader
