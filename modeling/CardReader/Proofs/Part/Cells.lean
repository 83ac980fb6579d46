import Mathlib.Data.List.GetD
import CardReader.Part.Basic

/-!
# What happens to the cells

The array of a part as a function from addresses to bytes.  Putting a byte, erasing a run and
programming a run inside a page each change the cells that they name and no others.

What is proved here:

* `cell_put`, `cell_erase` and the `size_` lemmas — one equation for each change;
* `overlay` — what a run of bytes asks of every cell, all ones outside the run, and how it falls
  apart when the run is cut in two (`overlay_append`);
* `programmed_clearPage` — a program that stays inside a page takes exactly the overlay of its
  bytes from the cells.
-/

namespace CardReader

open Flash

namespace Part.Cells

/-! ## Single changes -/

@[simp] theorem size_put (cells : Cells) (i : Nat) (byte : UInt8) :
    (cells.put i byte).size = cells.size :=
  ByteArray.size_set! _ _ _

theorem cell_put (cells : Cells) (i j : Nat) (byte : UInt8) :
    (cells.put i byte).cell j = if j = i ∧ i < cells.size then byte else cells.cell j := by
  have hsize : (cells.put i byte).bytes.size = cells.bytes.size := size_put cells i byte
  simp only [cell, hsize]
  by_cases hj : j < cells.bytes.size
  · rw [dif_pos hj, dif_pos hj]
    by_cases hij : j = i
    · subst hij
      rw [if_pos ⟨rfl, hj⟩]
      exact ByteArray.getElem_set!_self _ _ _ hj
    · rw [if_neg fun h => hij h.1]
      exact ByteArray.getElem_set!_ne _ _ _ _ (Ne.symm hij) hj
  · rw [dif_neg hj, dif_neg hj, if_neg]
    rintro ⟨rfl, h⟩
    exact hj h

@[simp] theorem size_clearBits (cells : Cells) (i : Nat) (byte : UInt8) :
    (cells.clearBits i byte).size = cells.size :=
  size_put _ _ _

theorem cell_clearBits {cells : Cells} {i : Nat} (hi : i < cells.size) (j : Nat) (byte : UInt8) :
    (cells.clearBits i byte).cell j = if j = i then cells.cell i &&& byte else cells.cell j := by
  rw [clearBits, cell_put]
  simp [hi]

@[simp] theorem size_erase (cells : Cells) (start count : Nat) :
    (cells.erase start count).size = cells.size := by
  induction count generalizing cells start with
  | zero => rfl
  | succ count ih => rw [erase, ih, size_put]

/-- Erasing sets the cells of its run and no others. -/
theorem cell_erase (cells : Cells) (start count j : Nat) :
    (cells.erase start count).cell j =
      if start ≤ j ∧ j < start + count then erasedByte else cells.cell j := by
  induction count generalizing cells start with
  | zero =>
    rw [erase, if_neg]
    omega
  | succ count ih =>
    rw [erase, ih, cell_put]
    by_cases hj : j = start
    · have hrun : start ≤ j ∧ j < start + (count + 1) := by omega
      have hrest : ¬(start + 1 ≤ j ∧ j < start + 1 + count) := by omega
      rw [if_pos hrun, if_neg hrest]
      by_cases hin : start < cells.size
      · rw [if_pos ⟨hj, hin⟩]
      · rw [if_neg fun h => hin h.2, cell, dif_neg (hj ▸ hin)]
    · rw [if_neg fun h : j = start ∧ start < cells.size => hj h.1]
      exact if_congr (by omega) rfl rfl

/-! ## Whole arrays -/

theorem size_repeated (times : Nat) (run bytes : ByteArray) :
    (repeated times run bytes).size = bytes.size + times * run.size := by
  induction times generalizing bytes with
  | zero => rw [repeated, Nat.zero_mul, Nat.add_zero]
  | succ times ih =>
    rw [repeated, ih, ByteArray.size_append, Nat.succ_mul]
    omega

theorem size_erasedRun (len : Nat) : (erasedRun len).size = len := by
  have hrun : ∀ n, (⟨Array.replicate n erasedByte⟩ : ByteArray).size = n :=
    fun _ => Array.size_replicate
  have hsplit := Nat.div_add_mod' len 4096
  rw [erasedRun, ByteArray.size_append, size_repeated, hrun, hrun, ByteArray.size_empty]
  omega

@[simp] theorem size_erased (size : Nat) : (erased size).size = size := size_erasedRun size

@[simp] theorem size_holding (size : Nat) (image : ByteArray) :
    (holding size image).size = size := by
  rw [holding]
  split
  · rw [Cells.size, ByteArray.size_append, size_erasedRun]
    omega
  · rw [Cells.size, ByteArray.size_extract]
    omega

/-- Every byte is erased. -/
def AllErased (bytes : ByteArray) : Prop := ∀ i (hi : i < bytes.size), bytes[i] = erasedByte

theorem AllErased.append {a b : ByteArray} (ha : AllErased a) (hb : AllErased b) :
    AllErased (a ++ b) := by
  intro i hi
  rw [ByteArray.size_append] at hi
  by_cases hleft : i < a.size
  · rw [ByteArray.getElem_append_left hleft]
    exact ha i hleft
  · rw [ByteArray.getElem_append_right (by omega)]
    exact hb (i - a.size) (by omega)

theorem AllErased.repeated {run : ByteArray} (hrun : AllErased run) (times : Nat) :
    ∀ bytes, AllErased bytes → AllErased (Cells.repeated times run bytes) := by
  induction times with
  | zero => exact fun _ h => h
  | succ times ih => exact fun bytes h => ih _ (h.append hrun)

theorem allErased_erasedRun (len : Nat) : AllErased (erasedRun len) := by
  have hrun : ∀ n, AllErased ⟨Array.replicate n erasedByte⟩ := by
    intro n i hi
    exact Array.getElem_replicate _
  have hempty : AllErased ByteArray.empty := fun i hi => absurd hi (Nat.not_lt_zero i)
  exact ((hrun 4096).repeated _ _ hempty).append (hrun _)

/-- A cell of an erased array is erased. -/
theorem cell_erased (size i : Nat) : (erased size).cell i = erasedByte := by
  unfold cell
  split
  · exact allErased_erasedRun size i _
  · rfl

/-! ## Slices -/

@[simp] theorem length_slice (cells : Cells) (start count : Nat) :
    (cells.slice start count).length = count := by
  rw [slice, List.length_map, List.length_range]

theorem getElem_slice {cells : Cells} {start count : Nat} (hfit : start + count ≤ cells.size)
    (i : Nat) (hi : i < (cells.slice start count).length) :
    (cells.slice start count)[i] = cells.cell (start + i) := by
  rw [length_slice] at hi
  simp only [slice, List.getElem_map, List.getElem_range]
  rw [Nat.mod_eq_of_lt (by omega)]

/-- A run of cells is its first cells and those after them. -/
theorem slice_add (cells : Cells) (start first rest : Nat) :
    cells.slice start (first + rest) =
      cells.slice start first ++ cells.slice (start + first) rest := by
  simp only [slice, List.range_add, List.map_append, List.map_map]
  refine congrArg _ (List.map_congr_left fun i _ => ?_)
  rw [Function.comp, Nat.add_assoc]

/-! ## Overlays -/

/-- What a run of bytes at an address asks of a cell: all ones outside the run. -/
def overlay (start : Nat) (bytes : List UInt8) (i : Nat) : UInt8 :=
  if start ≤ i then bytes.getD (i - start) erasedByte else erasedByte

theorem overlay_of_lt {start i : Nat} (bytes : List UInt8) (h : i < start) :
    overlay start bytes i = erasedByte :=
  if_neg (by omega)

theorem overlay_of_le {start i : Nat} {bytes : List UInt8} (h : start + bytes.length ≤ i) :
    overlay start bytes i = erasedByte := by
  rw [overlay, if_pos (by omega), List.getD_eq_default]
  omega

@[simp] theorem overlay_add (start i : Nat) (bytes : List UInt8) (h : i < bytes.length) :
    overlay start bytes (start + i) = bytes[i] := by
  rw [overlay, if_pos (by omega), Nat.add_sub_cancel_left, List.getD_eq_getElem _ _ h]

/-- A cell outside a run is asked for nothing. -/
theorem overlay_outside {start i : Nat} {bytes : List UInt8}
    (h : ¬(start ≤ i ∧ i < start + bytes.length)) : overlay start bytes i = erasedByte := by
  by_cases hi : i < start
  · exact overlay_of_lt bytes hi
  · exact overlay_of_le (by omega)

/-- Of a run cut in two, the first part decides below the cut and the second from there on. -/
theorem overlay_append (start i : Nat) (first second : List UInt8) :
    overlay start (first ++ second) i =
      if i < start + first.length then overlay start first i
      else overlay (start + first.length) second i := by
  by_cases hi : start ≤ i
  · by_cases hcut : i < start + first.length
    · rw [if_pos hcut, overlay, overlay, if_pos hi, if_pos hi, List.getD_append _ _ _ _ (by omega)]
    · rw [if_neg hcut, overlay, overlay, if_pos hi, if_pos (by omega),
        List.getD_append_right _ _ _ _ (by omega), Nat.sub_add_eq]
  · rw [overlay_of_lt _ (by omega), if_pos (by omega), overlay_of_lt _ (by omega)]

theorem and_erasedByte (byte : UInt8) : byte &&& erasedByte = byte :=
  UInt8.and_neg_one

/-- The cells of `after` are those of `before` with a run of bytes programmed. -/
structure Programmed (before after : Cells) (start : Nat) (bytes : List UInt8) : Prop where
  /-- Programming leaves the size of the array alone. -/
  size_eq : after.size = before.size
  /-- Every cell gives up the bits that the run asks it to. -/
  cell_eq : ∀ i, after.cell i = before.cell i &&& overlay start bytes i

/-- Arrays of one size with the same bytes in all cells are the same. -/
theorem eq_of_cell {a b : Cells} (hsize : a.size = b.size) (hcell : ∀ i, a.cell i = b.cell i) :
    a = b := by
  refine congrArg Cells.mk (ByteArray.ext_getElem hsize fun i hi hi' => ?_)
  have h := hcell i
  rwa [cell, cell, dif_pos hi, dif_pos hi'] at h

/-- What a run of bytes leaves is decided by the run and by what was there. -/
theorem Programmed.unique {before a b : Cells} {start : Nat} {bytes : List UInt8}
    (ha : Programmed before a start bytes) (hb : Programmed before b start bytes) : a = b :=
  eq_of_cell (ha.size_eq.trans hb.size_eq.symm) fun i => (ha.cell_eq i).trans (hb.cell_eq i).symm

theorem programmed_nil (cells : Cells) (start : Nat) : Programmed cells cells start [] :=
  ⟨rfl, fun i => by rw [overlay_outside (by simp only [List.length_nil]; omega), and_erasedByte]⟩

/-- Two runs programmed one after the other are one run. -/
theorem Programmed.append {a b c : Cells} {start : Nat} {first second : List UInt8}
    (hab : Programmed a b start first) (hbc : Programmed b c (start + first.length) second) :
    Programmed a c start (first ++ second) := by
  refine ⟨hbc.size_eq.trans hab.size_eq, fun i => ?_⟩
  rw [hbc.cell_eq, hab.cell_eq, overlay_append]
  by_cases hcut : i < start + first.length
  · rw [if_pos hcut, overlay_of_lt second hcut, and_erasedByte]
  · rw [if_neg hcut, overlay_of_le (by omega : start + first.length ≤ i), and_erasedByte]

theorem programmed_cons {cells after : Cells} {start : Nat} {byte : UInt8} {rest : List UInt8}
    (hstart : start < cells.size)
    (hrest : Programmed (cells.clearBits start byte) after (start + 1) rest) :
    Programmed cells after start (byte :: rest) := by
  have hfirst : Programmed cells (cells.clearBits start byte) start [byte] := by
    refine ⟨size_clearBits _ _ _, fun i => ?_⟩
    rw [cell_clearBits hstart]
    by_cases hi : i = start
    · subst hi
      simp [overlay]
    · rw [if_neg hi, overlay_outside (by simp only [List.length_singleton]; omega), and_erasedByte]
  exact hfirst.append hrest

end Part.Cells

namespace Part

open Cells

/-- A program that stays inside a page and inside the array reaches the cells of its run. -/
theorem programmed_clearPage (page : Nat) (bytes : List UInt8) :
    ∀ (cells : Cells) (offset : Nat), offset + bytes.length ≤ pageSize →
      page + offset + bytes.length ≤ cells.size →
      Programmed cells (clearPage cells page offset bytes) (page + offset) bytes := by
  induction bytes with
  | nil => intro cells offset _ _; exact programmed_nil cells _
  | cons byte rest ih =>
    intro cells offset hpage hfit
    simp only [List.length_cons] at hpage hfit
    have hplace : (page + offset) % cells.size = page + offset := Nat.mod_eq_of_lt (by omega)
    rw [clearPage, hplace]
    refine programmed_cons (by omega) ?_
    cases rest with
    | nil => exact programmed_nil _ _
    | cons next more =>
      simp only [List.length_cons] at hpage hfit ih
      have hnext : (offset + 1) % pageSize = offset + 1 := Nat.mod_eq_of_lt (by omega)
      rw [hnext]
      refine ih (cells.clearBits (page + offset) byte) (offset + 1) (by omega) ?_
      rw [size_clearBits]
      omega

/-- Whatever a program of a page does, it leaves the size of the array alone. -/
theorem size_clearPage (page : Nat) (bytes : List UInt8) :
    ∀ (cells : Cells) (offset : Nat), (clearPage cells page offset bytes).size = cells.size := by
  induction bytes with
  | nil => intro cells offset; rfl
  | cons byte rest ih => intro cells offset; rw [clearPage, ih, size_clearBits]

end Part

end CardReader
