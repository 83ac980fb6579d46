import Mathlib.Control.Monad.Basic
import CardReader.Proofs.Program.Chunk
import CardReader.Proofs.Program.Run

/-!
# A failed program is contained

Whatever the bus loses, and whatever an earlier operation has left behind, a program changes no
cell outside its image, and no cell inside it takes anything but the byte that the image has for
it.  If the part was listening, a failure that names a window says how far the program came.

What is proved here:

* `ends_sendPiece` — what one piece of a plan leaves, whether it answers or fails;
* `ends_program_contained` — a program on any bus with a part behind it;
* `program_contained` — the cells and the window after a program on a faulty bus.
-/

namespace CardReader

open Flash

/-! ## Containment -/

namespace Part.Cells

variable {a b c : Cells} {base addr : Nat} {image data : List UInt8}

/-- No cell has taken anything but its own byte of the image. -/
structure Contained (base : Nat) (image : List UInt8) (before after : Cells) : Prop where
  size_eq : after.size = before.size
  cell_eq : ∀ i, after.cell i = before.cell i ∨
    after.cell i = before.cell i &&& overlay base image i

theorem Contained.refl (base : Nat) (image : List UInt8) (cells : Cells) :
    Contained base image cells cells :=
  ⟨rfl, fun _ => .inl rfl⟩

/-- A cell outside the image has kept its byte. -/
theorem Contained.outside {i : Nat} (h : Contained base image a b)
    (hi : ¬(base ≤ i ∧ i < base + image.length)) : b.cell i = a.cell i := by
  rcases h.cell_eq i with hcell | hcell
  · exact hcell
  · rw [hcell, overlay_outside hi, and_erasedByte]

/-- The bytes of a part of the image are programmed over what earlier parts have left. -/
theorem Contained.programmed (hab : Contained base image a b) (hbc : Programmed b c addr data)
    (hdata : ∀ i, overlay addr data i = overlay base image i ∨ overlay addr data i = erasedByte) :
    Contained base image a c := by
  refine ⟨hbc.size_eq.trans hab.size_eq, fun i => ?_⟩
  rw [hbc.cell_eq]
  rcases hdata i with himage | hblank
  · rw [himage]
    rcases hab.cell_eq i with hcell | hcell
    · exact .inr (by rw [hcell])
    · exact .inr (by rw [hcell, UInt8.and_assoc, UInt8.and_self])
  · rw [hblank, and_erasedByte]
    exact hab.cell_eq i

/-- A part of an image asks of a cell what the image does, or nothing. -/
theorem overlay_part (base i : Nat) (front data rest : List UInt8) :
    overlay (base + front.length) data i = overlay base (front ++ (data ++ rest)) i ∨
      overlay (base + front.length) data i = erasedByte := by
  by_cases hi : base + front.length ≤ i ∧ i < base + front.length + data.length
  · rw [overlay_append, if_neg (by omega), overlay_append, if_pos hi.2]
    exact .inl rfl
  · exact .inr (overlay_outside hi)

end Part.Cells

namespace Flash.Controller

variable {σ : Type} [Bus σ] [Carrier σ]

/-! ## One piece -/

section Piece

variable {config : ControllerConfig} {useDma : Bool} {piece : Piece} {rig : Rig σ}

/-- A piece that answers has been programmed if the part was listening; otherwise it has been
missed, and cannot have been fed by DMA. -/
structure Settled (useDma : Bool) (piece : Piece) (rig r : Rig σ) : Prop where
  follows : rig.Follows r
  dma_eq : r.part.dma = rig.part.dma
  steady : Part.Steady rig.part r.part
  listening : Part.Listening r.clock r.part
  fired : Part.Listening rig.clock rig.part →
    Part.Cells.Programmed rig.part.cells r.part.cells piece.addr piece.data
  missed : ¬Part.Listening rig.clock rig.part →
    useDma = false ∧ r.part.cells = rig.part.cells

/-- A piece that fails has been programmed or not. -/
structure Failed (piece : Piece) (rig : Rig σ) (failure : Failure) (r : Rig σ) : Prop where
  follows : rig.Follows r
  dma_eq : r.part.dma = rig.part.dma
  steady : Part.Steady rig.part r.part
  tried : Part.Tried piece.addr piece.data rig.part r.part
  reason : Carrier.strays rig.bus failure ∨ failure.window? = none

theorem Hindrance.window?_eq {len : Nat} {clock : Clock} {part : Part} {failure : Failure}
    (h : Hindrance config useDma len clock part failure) : failure.window? = none := by
  cases h <;> rfl

theorem failed_of_dropped {failure : Failure} {r : Rig σ}
    (h : Dropped config useDma piece.addr piece.data rig failure r) :
    Failed piece rig failure r :=
  ⟨h.follows, h.dma_eq, h.steady, h.tried, h.reason.imp_right Hindrance.window?_eq⟩

/-- The wait after a piece settles it. -/
theorem ends_wait_of_sent {r : Rig σ} (policy : PollPolicy)
    (hsent : Sent piece.addr piece.data rig r)
    (hdma : useDma = true → Part.Listening rig.clock rig.part) :
    Op.Ends (Sequence.waitReady policy) r (fun _ last => Settled useDma piece rig last)
      (fun failure last => Failed piece rig failure last) := by
  refine (ends_waitReady r policy).mono ?_ ?_
  · rintro _ last ⟨huntouched, hfollows, hlisten⟩
    refine ⟨hsent.abreast.follows.trans hfollows, huntouched.dma_eq.trans hsent.dma_eq,
      hsent.shot.steady.trans huntouched.steady, hlisten, fun h => ?_, fun h => ⟨?_, ?_⟩⟩
    · rw [huntouched.cells_eq]
      exact (hsent.shot.1 h).programmed
    · exact Bool.eq_false_iff.2 fun htrue => h (hdma htrue)
    · rw [huntouched.cells_eq]
      exact (hsent.shot.2 h).cells_eq
  · rintro failure last ⟨huntouched, hfollows, hreason⟩
    refine ⟨hsent.abreast.follows.trans hfollows, huntouched.dma_eq.trans hsent.dma_eq,
      hsent.shot.steady.trans huntouched.steady, ?_, ?_⟩
    · rw [Part.Tried, huntouched.cells_eq]
      exact hsent.shot.tried
    · rw [hsent.abreast.strays_eq] at hreason
      rcases hreason with hstray | rfl | rfl
      · exact .inl hstray
      · exact .inr rfl
      · exact .inr rfl

theorem ends_sendPiece (hmode : config.programMode.check rig.part.features = .ok ())
    (hproper : piece.Proper) (haddr : piece.addr < addressSpace)
    (hfit : piece.addr + piece.data.length ≤ rig.part.cells.size) :
    Op.Ends (sendPiece config useDma piece) rig (fun _ r => Settled useDma piece rig r)
      (fun failure r => Failed piece rig failure r) := by
  unfold sendPiece
  cases useDma with
  | true =>
    exact ends_programChunkDma hmode haddr hproper.page hfit hproper.nonempty
      (fun r hsent hlisten => ends_wait_of_sent _ hsent fun _ => hlisten)
      fun _ _ => failed_of_dropped
  | false =>
    exact ends_programChunk hmode haddr hproper.page hfit
      (fun r hsent => ends_wait_of_sent _ hsent nofun) fun _ _ => failed_of_dropped

end Piece

/-! ## The whole program -/

section Program

variable {config : ControllerConfig} {base : Nat} {payload : List UInt8} {useDma : Bool}
  {cipher : CipherMode} {enciphered : Cipher.Enciphered} {rig : Rig σ}

/-- Some pieces of a program have been sent. -/
structure Advanced (base : Nat) (image : List UInt8) (rig : Rig σ) (sent : List Piece)
    (r : Rig σ) : Prop where
  follows : rig.Follows r
  dma_eq : r.part.dma = rig.part.dma
  steady : Part.Steady rig.part r.part
  contained : Part.Cells.Contained base image rig.part.cells r.part.cells
  listening : Part.Listening rig.clock rig.part → Part.Listening r.clock r.part
  programmed : Part.Listening rig.clock rig.part →
    Part.Cells.Programmed rig.part.cells r.part.cells base (bytes sent)

/-- How far a program came that failed in a window: everything before the window is programmed,
and nothing after it has been touched. -/
structure Reached (base : Nat) (image : List UInt8) (window : Window)
    (before after : Part.Cells) : Prop where
  before_start : ∀ i < window.start,
    after.cell i = before.cell i &&& Part.Cells.overlay base image i
  from_stop : ∀ i, window.stop ≤ i → after.cell i = before.cell i

/-- A program has failed. -/
structure Stopped (base : Nat) (enciphered : Cipher.Enciphered) (rig : Rig σ) (failure : Failure)
    (r : Rig σ) : Prop where
  follows : rig.Follows r
  dma_eq : r.part.dma = rig.part.dma
  steady : Part.Steady rig.part r.part
  contained : Part.Cells.Contained base enciphered.image rig.part.cells r.part.cells
  reached : Part.Listening rig.clock rig.part → ∀ start, failure.window? = some start →
    ∃ window ∈ windows base enciphered, window.start = start ∧
      Reached base enciphered.image window rig.part.cells r.part.cells

/-- The pieces before a window and some of the window itself reach that window. -/
theorem reached_of_programmed {before after : Part.Cells} {front rest : List UInt8}
    {window : Window} (hprogrammed : Part.Cells.Programmed before after base front)
    (hstart : window.start ≤ base + front.length) (hstop : base + front.length ≤ window.stop) :
    Reached base (front ++ rest) window before after := by
  refine ⟨fun i hi => ?_, fun i hi => ?_⟩
  · rw [hprogrammed.cell_eq, Part.Cells.overlay_append, if_pos (by omega)]
  · rw [hprogrammed.cell_eq, Part.Cells.overlay_of_le (by omega), Part.Cells.and_erasedByte]

/-- A piece that is sent carries a program on. -/
theorem Advanced.snoc {image : List UInt8} {sent : List Piece} {piece : Piece} {r r' : Rig σ}
    (h : Advanced base image rig sent r) (hsettled : Settled useDma piece r r')
    (haddr : piece.addr = base + (bytes sent).length)
    (hpart : ∀ i, Part.Cells.overlay piece.addr piece.data i = Part.Cells.overlay base image i ∨
      Part.Cells.overlay piece.addr piece.data i = Part.erasedByte) :
    Advanced base image rig (sent ++ [piece]) r' := by
  refine ⟨h.follows.trans hsettled.follows, hsettled.dma_eq.trans h.dma_eq,
    h.steady.trans hsettled.steady, ?_, fun _ => hsettled.listening, fun hlisten => ?_⟩
  · by_cases hlisten : Part.Listening r.clock r.part
    · exact h.contained.programmed (hsettled.fired hlisten) hpart
    · rw [(hsettled.missed hlisten).2]
      exact h.contained
  · have hfired := hsettled.fired (h.listening hlisten)
    rw [haddr] at hfired
    rw [bytes_append, bytes_cons, bytes_nil, List.append_nil]
    exact (h.programmed hlisten).append hfired

/-- A piece that fails has brought a program as far as its window. -/
theorem Advanced.reached {image : List UInt8} {sent rest : List Piece} {piece : Piece}
    {failure : Failure} {r r' : Rig σ} (h : Advanced base image rig sent r)
    (hfailed : Failed piece r failure r') (haddr : piece.addr = base + (bytes sent).length)
    (himage : image = bytes sent ++ (piece.data ++ bytes rest)) (hproper : piece.Proper)
    (hlisten : Part.Listening rig.clock rig.part) :
    Reached base image piece.window rig.part.cells r'.part.cells := by
  have hstart := hproper.start_le
  have hstop := hproper.le_stop
  have hbefore := h.programmed hlisten
  rcases hfailed.tried with hcells | hprogrammed
  · rw [hcells, himage]
    exact reached_of_programmed hbefore (by omega) (by omega)
  · rw [haddr] at hprogrammed
    have hafter := hbefore.append hprogrammed
    rw [himage, ← List.append_assoc]
    refine reached_of_programmed hafter ?_ ?_
    all_goals
      rw [List.length_append]
      omega

theorem carries_advanced (hmode : config.programMode.check rig.part.features = .ok ())
    (htail : TailFits (base + enciphered.body.length) enciphered.tail)
    (hspace : base + enciphered.image.length ≤ addressSpace)
    (hfit : base + enciphered.image.length ≤ rig.part.cells.size)
    (hstrays : ∀ failure, Carrier.strays rig.bus failure → failure.window? = none) :
    Carries config useDma (plan base useDma enciphered) (Advanced base enciphered.image rig)
      (Stopped base enciphered rig) := by
  refine ⟨fun sent r event h => ?_, fun sent piece rest r hplan h => ?_⟩
  · exact ⟨⟨h.follows.1, h.follows.2⟩, h.dma_eq, h.steady, h.contained, h.listening, h.programmed⟩
  obtain ⟨haddr, himage, hend, hwindow, hproper, -⟩ := split_plan htail hplan
  have hpos := List.length_pos_iff.2 hproper.nonempty
  have hpart : ∀ i, Part.Cells.overlay piece.addr piece.data i =
      Part.Cells.overlay base enciphered.image i ∨
        Part.Cells.overlay piece.addr piece.data i = Part.erasedByte := by
    intro i
    rw [haddr, himage]
    exact Part.Cells.overlay_part base i _ _ _
  refine (ends_sendPiece (by rwa [h.steady.features_eq]) hproper (by omega)
    (by rw [h.contained.size_eq]; omega)).mono ?_ ?_
  · intro _ r' hsettled
    exact h.snoc hsettled haddr hpart
  · intro failure r' hfailed
    refine ⟨h.follows.trans hfailed.follows, hfailed.dma_eq.trans h.dma_eq,
      h.steady.trans hfailed.steady, ?_, fun hlisten start hstart => ?_⟩
    · rcases hfailed.tried with hcells | hprogrammed
      · rw [hcells]
        exact h.contained
      · exact h.contained.programmed hprogrammed hpart
    · have hnone : failure.window? = none := by
        rcases hfailed.reason with hstray | hnone
        · rw [h.follows.strays_eq] at hstray
          exact hstrays failure hstray
        · exact hnone
      exact ⟨piece.window, hwindow, (window?_programFailure hnone hstart).symm,
        h.reached hfailed haddr himage hproper hlisten⟩

/-- On any bus with a part behind it, a program keeps to its image. -/
theorem ends_program_contained
    (hfit : base + Cipher.paddedLength payload.length cipher ≤ rig.part.cells.size)
    (hstrays : ∀ failure, Carrier.strays rig.bus failure → failure.window? = none) :
    Op.Ends (program config base payload useDma cipher) rig
      (fun stats r => Passes config base payload useDma cipher rig.part.features ∧
        stats = statsOf base useDma (Cipher.encipher payload cipher) ∧
        Advanced base (Cipher.encipher payload cipher).image rig
          (plan base useDma (Cipher.encipher payload cipher)) r)
      (fun failure r => Stopped base (Cipher.encipher payload cipher) rig failure r) := by
  have hlength := Cipher.length_image payload cipher
  have hfeatures : Bus.features rig.bus = rig.part.features := Carrier.features_eq rig.bus
  rw [← hfeatures]
  by_cases hpasses : Passes config base payload useDma cipher (Bus.features rig.bus)
  · have hspace := (checkProgram_eq_ok_iff.1 hpasses.check_eq).2.1
    have hstart : Advanced base (Cipher.encipher payload cipher).image rig [] rig :=
      ⟨.refl _, rfl, .refl _, .refl _ _ _, id, fun _ => Part.Cells.programmed_nil _ _⟩
    exact (ends_program_of_passes hpasses hstart (carries_advanced (hfeatures ▸ hpasses.mode)
      hpasses.tailFits (by omega) (by omega) hstrays)).mono (fun _ _ h => ⟨hpasses, h⟩)
      fun _ _ h => h
  · refine (ends_program_of_not_passes hpasses).mono (fun _ _ h => h.elim) ?_
    rintro failure r ⟨rfl, hnone⟩
    refine ⟨.refl _, rfl, .refl _, .refl _ _ _, fun _ start hstart => ?_⟩
    rw [hnone] at hstart
    cases hstart

end Program

/-! ## Programs on a faulty bus -/

/-- Whatever becomes of a program on a faulty bus, the cells outside the padded payload keep their
bytes and each cell inside keeps its byte or takes its own byte of the image.  If the part was
listening and the failure names a window, it is one of the payload's windows, everything before it
is programmed and nothing from its end on has been touched. -/
theorem program_contained (config : ControllerConfig) (base : Nat) (payload : List UInt8)
    (useDma : Bool) (cipher : CipherMode) (rig : Rig FaultyPart)
    (hfit : base + Cipher.paddedLength payload.length cipher ≤ rig.bus.part.cells.size)
    (hplanned : ∀ failure, rig.bus.plan.Plans failure → failure.window? = none)
    {outcome : Except Failure ProgramStats} {after : Rig FaultyPart}
    (hrun : program config base payload useDma cipher rig = (outcome, after)) :
    let image := (Cipher.encipher payload cipher).image
    (∀ i, ¬(base ≤ i ∧ i < base + Cipher.paddedLength payload.length cipher) →
        after.bus.part.cells.cell i = rig.bus.part.cells.cell i) ∧
      (∀ i (hi : i < image.length),
        after.bus.part.cells.cell (base + i) = rig.bus.part.cells.cell (base + i) ∨
          after.bus.part.cells.cell (base + i) = rig.bus.part.cells.cell (base + i) &&& image[i]) ∧
      (Part.Listening rig.clock rig.bus.part → ∀ start,
        (outcome = .error (.programTimeout start) ∨ outcome = .error (.programRefused start)) →
        ∃ window ∈ windows base (Cipher.encipher payload cipher), window.start = start ∧
          (∀ i (hi : i < image.length), base + i < start →
            after.bus.part.cells.cell (base + i) =
              rig.bus.part.cells.cell (base + i) &&& image[i]) ∧
          ∀ i, window.stop ≤ i → after.bus.part.cells.cell i = rig.bus.part.cells.cell i) := by
  intro image
  have himage : image.length = Cipher.paddedLength payload.length cipher :=
    Cipher.length_image payload cipher
  have hends : Op.Ends (program config base payload useDma cipher) rig _ _ :=
    ends_program_contained hfit hplanned
  have hcontained : Part.Cells.Contained base image rig.bus.part.cells after.bus.part.cells := by
    cases outcome with
    | ok stats => exact ((Op.ends_of_ok hrun).1 hends).2.2.contained
    | error failure => exact ((Op.ends_of_error hrun).1 hends).contained
  refine ⟨fun i hi => ?_, fun i hi => ?_, fun hlisten start hfailed => ?_⟩
  · exact hcontained.outside (by rwa [himage])
  · rw [← Part.Cells.overlay_add base i image hi]
    exact hcontained.cell_eq (base + i)
  · obtain ⟨failure, rfl, hstart⟩ :
        ∃ failure, outcome = .error failure ∧ failure.window? = some start := by
      rcases hfailed with rfl | rfl
      · exact ⟨_, rfl, rfl⟩
      · exact ⟨_, rfl, rfl⟩
    obtain ⟨window, hwindow, rfl, hreached⟩ :=
      ((Op.ends_of_error hrun).1 hends).reached hlisten start hstart
    refine ⟨window, hwindow, rfl, fun i hi hlt => ?_, hreached.from_stop⟩
    rw [← Part.Cells.overlay_add base i image hi]
    exact hreached.before_start (base + i) hlt

/-- A new part behind a bus that loses all page programs after the first few. -/
def lossyRig (size skip : Nat) : Rig FaultyPart where
  bus :=
    { part := Part.new { size }
      plan := { issue := .after skip .busyTimeout (some Opcode.pageProgram) } }
  clock := .start

theorem window?_of_lossyRig {size skip : Nat} {failure : Failure}
    (h : (lossyRig size skip).bus.plan.Plans failure) : failure.window? = none := by
  obtain ⟨kind, call, hfailure⟩ := h
  cases kind with
  | issue =>
    have hissue : (if call < skip then none else some Failure.busyTimeout) = some failure :=
      hfailure
    split at hissue
    · cases hissue
    · cases hissue
      rfl
  | _ => cases hfailure

/-- The only program command is lost, and its window is the one that the failure names. -/
theorem program_contained_lost_command :
    Part.Listening (lossyRig 4 0).clock (lossyRig 4 0).bus.part ∧
      (program {} 2 [0x5A] false .none (lossyRig 4 0)).1 = .error (.programTimeout 2) ∧
      ∃ window ∈ windows 2 (Cipher.encipher [0x5A] .none), window.start = 2 ∧
        ∀ i, window.stop ≤ i →
          (program {} 2 [0x5A] false .none (lossyRig 4 0)).2.bus.part.cells.cell i =
            (lossyRig 4 0).bus.part.cells.cell i := by
  have hlisten : Part.Listening (lossyRig 4 0).clock (lossyRig 4 0).bus.part := by decide
  have hfailed : (program {} 2 [0x5A] false .none (lossyRig 4 0)).1 =
      .error (.programTimeout 2) := by
    decide +kernel
  have hfit : 2 + Cipher.paddedLength 1 .none ≤ (lossyRig 4 0).bus.part.cells.size := by
    rw [show (lossyRig 4 0).bus.part.cells.size = 4 from Part.Cells.size_erased 4]
    decide
  obtain ⟨-, -, hreached⟩ := program_contained {} 2 [0x5A] false .none (lossyRig 4 0) hfit
    (fun _ => window?_of_lossyRig) (Prod.ext hfailed rfl)
  obtain ⟨window, hwindow, hstart, -, hstop⟩ := hreached hlisten 2 (.inl rfl)
  exact ⟨hlisten, hfailed, window, hwindow, hstart, hstop⟩

end Flash.Controller

end CardReader
