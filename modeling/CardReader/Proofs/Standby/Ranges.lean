import CardReader.Command.Transfer
import CardReader.Proofs.Standby.Calls

/-!
# Ranges of a part at standby

A range is read block by block, and erased unit by unit: large blocks where they fit and sectors
before and after them.  Which units these are depends on the range alone.

What is proved here:

* `does_readRange` — a range that is read is the run of its cells;
* `does_eraseRange` — a range is erased by the units of a list, one act for each;
* `cell_sweep` — together these units are all of the sectors that the range touches, and no more.
-/

namespace CardReader

open Flash Flash.Controller

namespace Command

variable {settings : ControllerConfig} {config : Part.Config} {cells : Part.Cells}
  {held : StatusRegister → UInt8} {rig : Rig Part}

/-! ## Reading -/

/-- Blocks of a range are put together again. -/
theorem does_readBlocks (hdepth : config.readDepth ≠ 0) (addr len : Nat) (done : List UInt8) :
    addr + len ≤ addressSpace → ∀ rig, Standby config cells held rig →
      (readBlocks settings addr len done).Does config rig
        { able := len = 0 ∨ settings.readMode.check (Part.new config).features = .ok ()
          answer := done.reverse ++ cells.slice addr len
          cells
          held } := by
  fun_induction readBlocks (σ := Part) settings addr len done with
  | case1 addr done =>
    intro _ rig hstandby
    have hanswer : done.reverse ++ cells.slice addr 0 = done.reverse := List.append_nil _
    rw [hanswer]
    exact (Op.does_pure hstandby _).congr (by simp) fun _ => rfl
  | case2 addr len done hmore count ih =>
    intro hfit rig hstandby
    have hcount : count ≤ len := Nat.min_le_right _ _
    have hrange : checkRange addr count = .ok () := checkRange_eq_ok_iff.2 (by omega)
    refine (Op.does_bind (does_read hstandby hdepth addr count) fun _ r hrest =>
      ih _ (by omega) r hrest).congr ?_ fun _ => ?_
    · simp only [hrange, hmore, true_and, false_or]
      exact ⟨fun h => ⟨h, .inr h⟩, fun h => h.1⟩
    · simp only [reverse_reverseAux_slice cells addr hcount done]

/-- A range is read exactly if it lies inside the address space and the controller can drive the
mode. -/
theorem does_readRange (hstandby : Standby config cells held rig) (hdepth : config.readDepth ≠ 0)
    (addr len : Nat) :
    (readRange settings addr len).Does config rig
      { able := checkRange addr len = .ok () ∧
          (len = 0 ∨ settings.readMode.check (Part.new config).features = .ok ())
        answer := cells.slice addr len
        cells
        held } := by
  rw [readRange]
  exact Op.does_check_bind fun hrange =>
    does_readBlocks hdepth addr len [] (checkRange_eq_ok_iff.1 hrange).2 rig hstandby

/-! ## Erasing -/

/-- The units that erase the sectors from `start` up to `stop`, each with an address in it. -/
def eraseSteps (start stop : Nat) : List (EraseUnit × Nat) :=
  if _none : stop ≤ start then []
  else if start % block64Size = 0 ∧ block64Size ≤ stop - start then
    (.block64, start) :: eraseSteps (start + block64Size) stop
  else (.sector, start) :: eraseSteps (start + sectorSize) stop
termination_by stop - start
decreasing_by
  · simp only [block64Size]; omega
  · simp only [sectorSize]; omega

/-- Erases units one after another. -/
def eraseAll {σ : Type} [Bus σ] (settings : ControllerConfig) : List (EraseUnit × Nat) → Op σ Unit
  | [] => pure ()
  | (unit, addr) :: rest => do
    Controller.erase settings unit addr
    eraseAll settings rest

theorem eraseSectors_eq_eraseAll {σ : Type} [Bus σ] (settings : ControllerConfig)
    (start stop : Nat) :
    (eraseSectors settings start stop : Op σ Unit) = eraseAll settings (eraseSteps start stop) := by
  fun_induction eraseSteps start stop with
  | case1 start hnone => rw [eraseSectors, dif_pos hnone]; rfl
  | case2 start hmore hlarge ih =>
    rw [eraseSectors, dif_neg hmore, if_pos hlarge, ih, eraseAll]
    rfl
  | case3 start hmore hsmall ih =>
    rw [eraseSectors, dif_neg hmore, if_neg hsmall, ih, eraseAll]
    rfl

/-- The array after units of it have been erased. -/
def sweep (config : Part.Config) (steps : List (EraseUnit × Nat)) (cells : Part.Cells) :
    Part.Cells :=
  steps.foldl (fun cells step => cells.eraseUnit config step.1 step.2) cells

/-- How long the waits of these erases take. -/
def sweepTime (config : Part.Config) (policy : PollPolicy) : List (EraseUnit × Nat) → Nat
  | [] => 0
  | step :: rest =>
    policy.span ((Part.new config).eraseTime step.1) + sweepTime config policy rest

theorem does_eraseAll (steps : List (EraseUnit × Nat)) :
    ∀ cells rig, Standby config cells held rig →
      (eraseAll settings steps).Does config rig
        { able := ∀ step ∈ steps, (checkAddress step.2 = .ok () ∨ step.1 = .chip) ∧
            settings.poll.Reaches ((Part.new config).eraseTime step.1)
          answer := ()
          cells := sweep config steps cells
          held
          us := sweepTime config settings.poll steps } := by
  induction steps with
  | nil =>
    intro cells rig hstandby
    exact (Op.does_pure hstandby ()).congr (by simp) fun _ => rfl
  | cons step rest ih =>
    intro cells rig hstandby
    refine (Op.does_bind (does_erase hstandby step.1 step.2) fun _ r hrest =>
      ih _ r hrest).congr ?_ fun _ => ?_
    · simp only [List.forall_mem_cons]
    · simp only [sweepTime]
      rfl

/-- The units that erase every sector that a range touches. -/
def rangeSteps (addr len : Nat) : List (EraseUnit × Nat) :=
  eraseSteps (addr / sectorSize * sectorSize)
    ((addr + len + sectorSize - 1) / sectorSize * sectorSize)

/-- Every unit is a sector or a large block that starts before the end. -/
theorem of_mem_eraseSteps (start stop : Nat) : ∀ step ∈ eraseSteps start stop,
    (step.1 = .sector ∨ step.1 = .block64) ∧ step.2 < stop := by
  fun_induction eraseSteps start stop with
  | case1 start hnone => exact fun _ hnil => absurd hnil List.not_mem_nil
  | case2 start hmore hlarge ih => exact List.forall_mem_cons.2 ⟨⟨.inr rfl, by omega⟩, ih⟩
  | case3 start hmore hsmall ih => exact List.forall_mem_cons.2 ⟨⟨.inl rfl, by omega⟩, ih⟩

theorem length_eraseSteps_le (start stop : Nat) : (eraseSteps start stop).length ≤ stop - start := by
  fun_induction eraseSteps start stop with
  | case1 start hnone => exact Nat.zero_le _
  | case2 start hmore hlarge ih =>
    have hpos : 0 < block64Size := by decide
    rw [List.length_cons]
    omega
  | case3 start hmore hsmall ih =>
    have hpos : 0 < sectorSize := by decide
    rw [List.length_cons]
    omega

theorem sweepTime_le {policy : PollPolicy} {us : Nat} {steps : List (EraseUnit × Nat)}
    (h : ∀ step ∈ steps, (Part.new config).eraseTime step.1 ≤ us) :
    sweepTime config policy steps ≤ steps.length * (us + policy.step) := by
  induction steps with
  | nil => exact Nat.zero_le _
  | cons step rest ih =>
    obtain ⟨hfirst, hrest⟩ := List.forall_mem_cons.1 h
    have hspan := policy.span_le ((Part.new config).eraseTime step.1)
    have hsum := ih hrest
    rw [sweepTime, List.length_cons, Nat.succ_mul]
    omega

theorem does_eraseRange (hstandby : Standby config cells held rig) (addr len : Nat) :
    (eraseRange settings addr len).Does config rig
      { able := ∀ step ∈ rangeSteps addr len, (checkAddress step.2 = .ok () ∨ step.1 = .chip) ∧
          settings.poll.Reaches ((Part.new config).eraseTime step.1)
        answer := ()
        cells := sweep config (rangeSteps addr len) cells
        held
        us := sweepTime config settings.poll (rangeSteps addr len) } := by
  rw [eraseRange, eraseSectors_eq_eraseAll]
  exact does_eraseAll _ cells rig hstandby

/-! ## What a sweep leaves -/

/-- Every address of a range and every other address in one of its sectors. -/
def Touched (addr len i : Nat) : Prop :=
  ∃ j, addr ≤ j ∧ j < addr + len ∧ j / sectorSize = i / sectorSize

theorem touched_iff {addr len : Nat} (hlen : 0 < len) (i : Nat) :
    Touched addr len i ↔ addr / sectorSize * sectorSize ≤ i ∧
      i < (addr + len + sectorSize - 1) / sectorSize * sectorSize := by
  simp only [Touched, sectorSize]
  constructor
  · rintro ⟨j, hle, hlt, hsector⟩
    omega
  · rintro ⟨hstart, hstop⟩
    by_cases hlow : i < addr
    · exact ⟨addr, Nat.le_refl _, by omega, by omega⟩
    · by_cases hhigh : i < addr + len
      · exact ⟨i, by omega, hhigh, rfl⟩
      · exact ⟨addr + len - 1, by omega, by omega, by omega⟩

theorem sweep_cons (step : EraseUnit × Nat) (rest : List (EraseUnit × Nat))
    (cells : Part.Cells) :
    sweep config (step :: rest) cells =
      sweep config rest (cells.eraseUnit config step.1 step.2) := rfl

@[simp] theorem size_sweep (steps : List (EraseUnit × Nat)) :
    ∀ cells : Part.Cells, (sweep config steps cells).size = cells.size := by
  induction steps with
  | nil => exact fun _ => rfl
  | cons step rest ih =>
    intro cells
    rw [sweep_cons, ih, Part.Cells.size_eraseUnit]

/-- The erase of a unit that starts at an address. -/
theorem cell_eraseUnit {unit : EraseUnit} {start : Nat} (cells : Part.Cells)
    (haligned : start % (Part.new config).unitSize unit = 0) (hlt : start < config.size) (i : Nat) :
    (cells.eraseUnit config unit start).cell i =
      if start ≤ i ∧ i < start + (Part.new config).unitSize unit then Part.erasedByte
      else cells.cell i := by
  have hsize : (Part.new config).cells.size = config.size := Part.Cells.size_erased _
  have hstart : (Part.new config).unitStart unit start = start := by
    rw [Part.unitStart, hsize, Nat.mod_eq_of_lt hlt]
    exact Nat.div_mul_cancel (Nat.dvd_of_mod_eq_zero haligned)
  rw [Part.Cells.eraseUnit, hstart, Part.Cells.cell_erase]

/-- A sweep grows by a unit before it. -/
theorem cell_sweep_cons {unit : EraseUnit} {start stop : Nat} {rest : List (EraseUnit × Nat)}
    (haligned : start % (Part.new config).unitSize unit = 0)
    (hroom : start + (Part.new config).unitSize unit ≤ stop) (hlt : start < config.size)
    (hrest : ∀ (cells : Part.Cells) (i : Nat), (sweep config rest cells).cell i =
      if start + (Part.new config).unitSize unit ≤ i ∧ i < stop then Part.erasedByte
      else cells.cell i) (cells : Part.Cells) (i : Nat) :
    (sweep config ((unit, start) :: rest) cells).cell i =
      if start ≤ i ∧ i < stop then Part.erasedByte else cells.cell i := by
  rw [sweep_cons, hrest, cell_eraseUnit cells haligned hlt]
  by_cases hunit : start ≤ i ∧ i < start + (Part.new config).unitSize unit
  · rw [if_pos hunit, ite_self, if_pos (by omega)]
  · rw [if_neg hunit]
    exact if_congr (by omega) rfl rfl

/-- The units between two sector boundaries inside the array are all of the cells in between. -/
theorem cell_sweep (start stop : Nat) (hstop : stop % sectorSize = 0) (hfit : stop ≤ config.size) :
    start % sectorSize = 0 → ∀ (cells : Part.Cells) (i : Nat),
      (sweep config (eraseSteps start stop) cells).cell i =
        if start ≤ i ∧ i < stop then Part.erasedByte else cells.cell i := by
  fun_induction eraseSteps start stop with
  | case1 start hnone =>
    intro _ cells i
    rw [if_neg (by omega)]
    rfl
  | case2 start hmore hlarge ih =>
    intro hstart cells i
    obtain ⟨haligned, hroom⟩ := hlarge
    have hsize : (Part.new config).unitSize .block64 = block64Size :=
      Nat.min_eq_left (show block64Size ≤ config.size by omega)
    have hnext : (start + block64Size) % sectorSize = 0 := by
      simp only [sectorSize, block64Size] at hstart ⊢
      omega
    refine cell_sweep_cons ?_ ?_ (by omega) ?_ cells i
    all_goals rw [hsize]
    · exact haligned
    · omega
    · exact ih hnext
  | case3 start hmore hsmall ih =>
    intro hstart cells i
    have hroom : start + sectorSize ≤ stop := by
      simp only [sectorSize] at hstart hstop ⊢
      omega
    have hsize : (Part.new config).unitSize .sector = sectorSize :=
      Nat.min_eq_left (show sectorSize ≤ config.size by omega)
    have hnext : (start + sectorSize) % sectorSize = 0 := by rw [Nat.add_mod_right, hstart]
    refine cell_sweep_cons ?_ ?_ (by omega) ?_ cells i
    all_goals rw [hsize]
    · exact hstart
    · exact hroom
    · exact ih hnext

/-- The end of a range, brought up to a sector boundary, still lies inside an array of whole
sectors. -/
theorem roundUp_le {addr len : Nat} (hpower : Part.Config.isPowerOfTwo config.size = true)
    (hsector : sectorSize ≤ config.size) (hfit : addr + len ≤ config.size) :
    (addr + len + sectorSize - 1) / sectorSize * sectorSize ≤ config.size := by
  obtain ⟨count, hcount⟩ := Part.dvd_of_isPowerOfTwo (by decide) hpower hsector
  simp only [sectorSize] at hcount ⊢
  omega

/-- The erase of a range leaves every address erased that the range touches, and no other. -/
theorem cell_sweep_rangeSteps {addr len : Nat}
    (hpower : Part.Config.isPowerOfTwo config.size = true) (hsector : sectorSize ≤ config.size)
    (hlen : 0 < len) (hfit : addr + len ≤ config.size) (cells : Part.Cells) (i : Nat) :
    (Touched addr len i → (sweep config (rangeSteps addr len) cells).cell i = Part.erasedByte) ∧
      (¬Touched addr len i → (sweep config (rangeSteps addr len) cells).cell i = cells.cell i) := by
  have hcell := cell_sweep (addr / sectorSize * sectorSize) _ (Nat.mul_mod_left _ _)
    (roundUp_le hpower hsector hfit) (Nat.mul_mod_left _ _) cells i
  rw [touched_iff hlen, rangeSteps, hcell]
  exact ⟨fun h => if_pos h, fun h => if_neg h⟩

end Command

end CardReader
