import Mathlib.Control.Monad.Basic
import CardReader.Proofs.Program.Unheard
import CardReader.Proofs.Reachable

/-!
# What a request that answers has done

A request asks the part for an effect: an erased unit, programmed bytes or a written register.  An
answer means that the part was listening at the end, but only a chip erase makes sure that it was
listening at the start.  Any other request that comes too early has its first command missed, and
all that it does after that is what its later commands do.

What is proved here:

* `Request.Done` and `Request.Begun` — the effect of a request, and the part of it that its first
  command has;
* `done_iff_of_run` — exactly when a request that has answered has had its effect;
* `sector_not_erased_while_recovering` — a sector erase that answers without any.
-/

namespace CardReader

open Flash

namespace Part.Cells

variable {cells before after : Cells} {start : Nat} {bytes first rest : List UInt8}

/-- No cell of a run has a bit that its byte lacks. -/
def Within (cells : Cells) (start : Nat) (bytes : List UInt8) : Prop :=
  ∀ i (hi : i < bytes.length), cells.cell (start + i) &&& bytes[i] = cells.cell (start + i)

theorem within_iff_overlay :
    Within cells start bytes ↔ ∀ i, cells.cell i &&& overlay start bytes i = cells.cell i := by
  constructor
  · intro h i
    by_cases hi : start ≤ i ∧ i < start + bytes.length
    · have hcell := h (i - start) (by omega)
      rw [← overlay_add start (i - start) bytes (by omega)] at hcell
      rwa [show start + (i - start) = i by omega] at hcell
    · rw [overlay_outside hi, and_erasedByte]
  · intro h i hi
    rw [← overlay_add start i bytes hi]
    exact h (start + i)

/-- Bytes that have been programmed are within. -/
theorem Programmed.within (h : Programmed before after start bytes) :
    Within after start bytes := by
  refine within_iff_overlay.2 fun i => ?_
  rw [h.cell_eq, UInt8.and_assoc, UInt8.and_self]

/-- Once the rest of a run has been programmed, the run is within if its first bytes were before. -/
theorem Programmed.within_append_iff
    (h : Programmed before after (start + first.length) rest) :
    Within after start (first ++ rest) ↔ Within before start first := by
  have hrest := within_iff_overlay.1 h.within
  rw [within_iff_overlay, within_iff_overlay]
  refine forall_congr' fun i => ?_
  rw [overlay_append]
  by_cases hi : i < start + first.length
  · rw [if_pos hi, h.cell_eq, overlay_of_lt rest hi, and_erasedByte]
  · rw [if_neg hi, overlay_of_le (by omega : start + first.length ≤ i), and_erasedByte]
    exact iff_of_true (hrest i) rfl

end Part.Cells

namespace Flash.Controller

/-! ## Requests -/

/-- A call that asks the part for an effect. -/
inductive Request where
  | erase (unit : EraseUnit) (addr : Nat)
  | program (base : Nat) (payload : List UInt8) (useDma : Bool) (cipher : CipherMode)
  | programOnePage (addr : Nat) (payload : List UInt8)
  | writeRegister (register : StatusRegister) (value : UInt16)

namespace Request

/-- Makes a request. -/
def run {σ : Type} [Bus σ] (config : ControllerConfig) : Request → Op σ Unit
  | erase unit addr => Controller.erase config unit addr
  | program base payload useDma cipher => do
    let _ ← Controller.program config base payload useDma cipher
  | programOnePage addr payload => Controller.programOnePage config addr payload
  | writeRegister register value => writeParam config (Part.writeStatusOpcode register) value

/-- What is to be programmed lies inside an array of `size` bytes. -/
def Fits (size : Nat) : Request → Prop
  | program base payload _ cipher => base + Cipher.paddedLength payload.length cipher ≤ size
  | programOnePage addr payload => addr + payload.length ≤ size
  | erase .. | writeRegister .. => True

/-- The effect of the request has taken place: the unit is erased, no cell has a bit that its byte
lacks, or the register stores the low byte of the value. -/
def Done (part : Part) : Request → Prop
  | erase unit addr => ∀ i, part.unitStart unit addr ≤ i →
      i < part.unitStart unit addr + part.unitSize unit → part.cells.cell i = Part.erasedByte
  | program base payload _ cipher => part.cells.Within base (Cipher.encipher payload cipher).image
  | programOnePage addr payload => part.cells.Within addr payload
  | writeRegister register value => part.stored register = Part.storable register value.toUInt8

/-- The effect that the first command of the request would have is there already: for a program
this is the first piece of its plan, and any other request has no other command. -/
def Begun (part : Part) : Request → Prop
  | program base payload useDma cipher =>
    ∀ piece ∈ (plan base useDma (Cipher.encipher payload cipher)).head?,
      part.cells.Within base piece.data
  | request => request.Done part

/-- The request waits for the part before it sends its command. -/
def WaitsFirst : Request → Prop
  | erase unit _ => unit = .chip
  | program .. | programOnePage .. | writeRegister .. => False

end Request

/-! ## Answers and effects -/

variable {config : ControllerConfig} {rig after : Rig Part}

theorem done_erase_iff {unit : EraseUnit} {addr : Nat} (hsized : rig.bus.Sized)
    (hrun : (Request.erase unit addr).run config rig = (.ok (), after)) :
    (Request.erase unit addr).Done after.bus ↔ Part.Listening rig.clock rig.bus ∨ unit = .chip ∨
      (Request.erase unit addr).Begun rig.bus := by
  obtain ⟨hsteady, herased, hmissed⟩ := (Op.ends_of_ok hrun).1 (ends_erase hsized)
  have hconfig : after.bus.config = rig.bus.config := hsteady.config_eq
  rw [← or_assoc]
  by_cases hlisten : Part.Listening rig.clock rig.bus ∨ unit = .chip
  · have hcells : after.bus.cells = _ := herased hlisten
    refine iff_of_true ?_ (.inl hlisten)
    intro i hstart hstop
    rw [Part.unitSize_congr hconfig] at hstop
    rw [Part.unitStart_congr hconfig (by rw [hcells, Part.Cells.size_erase]; rfl)] at hstart hstop
    rw [hcells, Part.Cells.cell_erase]
    exact if_pos ⟨hstart, hstop⟩
  · have hcells : after.bus.cells = rig.bus.cells := hmissed hlisten
    rw [or_iff_right hlisten]
    simp only [Request.Begun, Request.Done, Part.unitSize_congr hconfig,
      Part.unitStart_congr hconfig (congrArg Part.Cells.size hcells), hcells]

theorem exists_stats_of_run {base : Nat} {payload : List UInt8} {useDma : Bool}
    {cipher : CipherMode}
    (hrun : (Request.program base payload useDma cipher).run config rig = (.ok (), after)) :
    ∃ stats, program config base payload useDma cipher rig = (.ok stats, after) := by
  have hbind : Op.bind (program config base payload useDma cipher) (fun _ => pure ()) rig =
      (.ok (), after) := hrun
  rw [Op.bind] at hbind
  cases hprogram : program config base payload useDma cipher rig with
  | mk outcome last =>
    rw [hprogram] at hbind
    cases outcome with
    | ok stats => exact ⟨stats, congrArg (Except.ok stats, ·) (Prod.mk.inj hbind).2⟩
    | error failure => cases hbind

theorem done_program_iff {base : Nat} {payload : List UInt8} {useDma : Bool} {cipher : CipherMode}
    (hfits : (Request.program base payload useDma cipher).Fits rig.bus.cells.size)
    (hrun : (Request.program base payload useDma cipher).run config rig = (.ok (), after)) :
    (Request.program base payload useDma cipher).Done after.bus ↔
      Part.Listening rig.clock rig.bus ∨
        (Request.program base payload useDma cipher).Begun rig.bus := by
  have hbytes := bytes_plan base useDma (Cipher.encipher payload cipher)
  obtain ⟨stats, hprogram⟩ := exists_stats_of_run hrun
  by_cases hlisten : Part.Listening rig.clock rig.bus
  · refine iff_of_true ?_ (.inl hlisten)
    obtain ⟨-, -, hadvanced⟩ := (Op.ends_of_ok hprogram).1
      (ends_program_contained hfits fun _ => False.elim)
    have hprogrammed := hadvanced.programmed hlisten
    rw [hbytes] at hprogrammed
    exact hprogrammed.within
  · rw [or_iff_right hlisten, Request.Done, Request.Begun, ← hbytes]
    have hbelated := (Op.ends_of_ok hprogram).1 (ends_program_unheard hlisten hfits)
    generalize plan base useDma (Cipher.encipher payload cipher) = pieces at hbelated
    cases hbelated with
    | unsent =>
      exact iff_of_true (fun i hi => absurd hi (Nat.not_lt_zero i)) nofun
    | @missed first rest _ _ _ _ hprogrammed =>
      rw [bytes_cons]
      refine hprogrammed.within_append_iff.trans ?_
      simp only [List.head?_cons, Option.mem_some_iff, forall_eq']
      exact Iff.rfl

/-- A request that answers on a reachable part has had its effect exactly if the part was
listening when it was made, if it waits for the part first, or if what its first command would
have done was there already. -/
theorem done_iff_of_run (config : ControllerConfig) (request : Request) {rig after : Rig Part}
    (hreachable : Reachable rig) (hfits : request.Fits rig.bus.cells.size)
    (hrun : request.run config rig = (.ok (), after)) :
    request.Done after.bus ↔
      Part.Listening rig.clock rig.bus ∨ request.WaitsFirst ∨ request.Begun rig.bus := by
  cases request with
  | erase unit addr => exact done_erase_iff hreachable.sized hrun
  | program base payload useDma cipher =>
    rw [Request.WaitsFirst, false_or]
    exact done_program_iff hfits hrun
  | programOnePage addr payload =>
    obtain ⟨-, hprogrammed, hmissed⟩ :=
      (Op.ends_of_ok hrun).1 (ends_programOnePage hreachable.dma_eq hfits)
    rw [Request.WaitsFirst, false_or]
    by_cases hlisten : Part.Listening rig.clock rig.bus
    · exact iff_of_true (hprogrammed hlisten).within (.inl hlisten)
    · have hcells : after.bus.cells = rig.bus.cells := hmissed hlisten
      rw [or_iff_right hlisten]
      simp [Request.Begun, Request.Done, hcells]
  | writeRegister register value =>
    obtain ⟨hwritten, hmissed⟩ := (Op.ends_of_ok hrun).1 ends_writeParam
    rw [Request.WaitsFirst, false_or]
    by_cases hlisten : Part.Listening rig.clock rig.bus
    · exact iff_of_true (hwritten hlisten) (.inl hlisten)
    · have hstored : after.bus.stored = rig.bus.stored := hmissed hlisten
      rw [or_iff_right hlisten]
      simp [Request.Begun, Request.Done, hstored]

/-- A part that holds zeros, when the controller takes its reset to be over.  The part itself takes
`us` microseconds to recover. -/
def resetRig (us : Nat) : Rig Part :=
  ((Call.softReset .single).run {}
    { bus := .holding { size := 4, resetRecoveryTime := us } ⟨#[0, 0, 0, 0]⟩, clock := .start }).2

theorem reachable_resetRig (us : Nat) : Reachable (resetRig us) := by
  refine .call (.holding ?_ _ _) {} _
  have hpower : Part.Config.isPowerOfTwo 4 = true := by decide
  simp [Part.Config.validate, hpower, Part.Config.maxSize]

/-- A part that recovers in time is listening, and its sector is erased. -/
theorem sector_erased_after_reset :
    let request := Request.erase .sector 1
    let config : ControllerConfig := { poll := { interval := 50000 } }
    Reachable (resetRig 30000) ∧ request.Fits (resetRig 30000).bus.cells.size ∧
      (request.run config (resetRig 30000)).1 = .ok () ∧
      request.Done (request.run config (resetRig 30000)).2.bus := by
  intro request config
  have hrun : (request.run config (resetRig 30000)).1 = .ok () := by decide +kernel
  have hlisten : Part.Listening (resetRig 30000).clock (resetRig 30000).bus := by decide +kernel
  exact ⟨reachable_resetRig _, trivial, hrun, (done_iff_of_run config request
    (reachable_resetRig _) trivial (Prod.ext hrun rfl)).2 (.inl hlisten)⟩

/-- A part that recovers more slowly misses the erase: the erase answers once the part has
recovered, and the sector still holds zeros. -/
theorem sector_not_erased_while_recovering :
    let request := Request.erase .sector 1
    let config : ControllerConfig := { poll := { interval := 50000 } }
    Reachable (resetRig 100000) ∧ (request.run config (resetRig 100000)).1 = .ok () ∧
      ¬request.Done (request.run config (resetRig 100000)).2.bus := by
  intro request config
  have hrun : (request.run config (resetRig 100000)).1 = .ok () := by decide +kernel
  have hcell : (request.run config (resetRig 100000)).2.bus.cells.cell 0 = 0 := by decide +kernel
  refine ⟨reachable_resetRig _, hrun, fun hdone => ?_⟩
  have herased := hdone 0 (by decide +kernel) (by decide +kernel)
  rw [hcell] at herased
  cases herased

end Flash.Controller

end CardReader
