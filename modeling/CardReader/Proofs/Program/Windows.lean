import Mathlib.Logic.Function.Iterate
import CardReader.Proofs.Program.Plan

/-!
# Page windows partition a range

The windows of a range are taken from it one call at a time.  The calls yield a partition of the
range, the count of the windows to come is right before every call, and once the range is used up
every further call yields nothing.

What is proved here:

* `remaining_eq_length` — the closed form of the count is the number of windows;
* `partition_toList` — the windows are a partition: one follows the other, each inside a page, and
  those that are neither first nor last are whole pages;
* `next?_iterate` and `toList_iterate` — what any number of calls yields and leaves;
* `ofRange_partitions` — all of this for every range that the address space holds, and a refusal
  for every other one.
-/

namespace CardReader.Flash.PageWindows

variable {windows : PageWindows} {window : Window}

/-! ## The count -/

/-- A range that goes on behind its first window goes on with a page. -/
theorem cut_of_lt (h : windows.cut < windows.stop) :
    windows.cut = (windows.start / pageSize + 1) * pageSize := by
  simp only [cut] at h ⊢
  omega

/-- Where a window is cut off, the windows to come are one fewer. -/
theorem remaining_of_lt (h : windows.start < windows.stop) :
    windows.remaining = (⟨windows.cut, windows.stop⟩ : PageWindows).remaining + 1 := by
  rw [remaining, if_neg (Nat.not_le.2 h)]
  rcases Nat.lt_or_ge windows.cut windows.stop with hlt | hle
  · rw [remaining, if_neg (Nat.not_le.2 hlt)]
    have hcut := cut_of_lt hlt
    simp only [pageSize] at hcut ⊢
    omega
  · rw [remaining, if_pos hle]
    simp only [cut, pageSize] at hle ⊢
    omega

/-- The closed form of the count is the number of windows. -/
theorem remaining_eq_length (windows : PageWindows) :
    windows.remaining = windows.toList.length := by
  fun_induction toList windows with
  | case1 windows hnext => rw [remaining, if_pos (next?_eq_none.1 hnext), List.length_nil]
  | case2 windows first rest hnext ih =>
    obtain ⟨hlt, rfl, rfl⟩ := next?_eq_some hnext
    rw [remaining_of_lt hlt, ih, List.length_cons]

/-! ## The partition -/

/-- Each window starts where the one before it ends, from the start of a range to its end. -/
def Contiguous : Nat → Nat → List Window → Prop
  | start, stop, [] => start = stop
  | start, stop, window :: rest => window.start = start ∧ Contiguous window.stop stop rest

/-- The windows fill a range without a gap, each of them inside one page, and only the first and
the last may be less than a page. -/
structure Partition (start stop : Nat) (list : List Window) : Prop where
  contiguous : Contiguous start stop list
  paged : ∀ window ∈ list, window.Paged
  whole : ∀ window ∈ list.tail.dropLast, window.length = pageSize

theorem contiguous_toList (h : windows.start ≤ windows.stop) :
    Contiguous windows.start windows.stop windows.toList := by
  fun_induction toList windows with
  | case1 windows hnext => exact Nat.le_antisymm h (next?_eq_none.1 hnext)
  | case2 windows first rest hnext ih =>
    obtain ⟨-, rfl, rfl⟩ := next?_eq_some hnext
    exact ⟨rfl, ih windows.cut_le⟩

/-- From the start of a page on, every window but the last is a page. -/
theorem length_of_mem_dropLast (haligned : windows.start % pageSize = 0)
    (h : window ∈ windows.toList.dropLast) : window.length = pageSize := by
  fun_induction toList windows with
  | case1 => cases h
  | case2 windows first rest hnext ih =>
    obtain ⟨-, rfl, rfl⟩ := next?_eq_some hnext
    rcases Nat.lt_or_ge windows.cut windows.stop with hlt | hle
    · have hcut := cut_of_lt hlt
      rw [List.dropLast_cons_of_ne_nil (toList_ne_nil.2 hlt)] at h
      rcases List.mem_cons.1 h with rfl | hrest
      · simp only [Window.length, pageSize] at haligned hcut ⊢
        omega
      · exact ih (by rw [hcut, Nat.mul_mod_left]) hrest
    · rw [toList_of_le hle] at h
      cases h

theorem length_of_mem_inner (h : window ∈ windows.toList.tail.dropLast) :
    window.length = pageSize := by
  rcases Nat.lt_or_ge windows.start windows.stop with hlt | hle
  · rw [toList_of_lt hlt, List.tail_cons] at h
    rcases Nat.lt_or_ge windows.cut windows.stop with hcut | hdone
    · exact length_of_mem_dropLast (by rw [cut_of_lt hcut, Nat.mul_mod_left]) h
    · rw [toList_of_le hdone] at h
      cases h
  · rw [toList_of_le hle] at h
    cases h

theorem partition_toList (windows : PageWindows) (h : windows.start ≤ windows.stop) :
    Partition windows.start windows.stop windows.toList where
  contiguous := contiguous_toList h
  paged _ hmem := (paged_of_mem_toList hmem).1
  whole _ hmem := length_of_mem_inner hmem

/-! ## Call after call -/

/-- What a call for the next window leaves: what is behind that window, and the range as it is
when there is none. -/
def advance (windows : PageWindows) : PageWindows := (windows.next?.map Prod.snd).getD windows

theorem next?_eq_head? (windows : PageWindows) :
    windows.next?.map Prod.fst = windows.toList.head? := by
  rcases Nat.lt_or_ge windows.start windows.stop with hlt | hle
  · rw [next?_of_lt hlt, toList_of_lt hlt]
    rfl
  · rw [next?_of_le hle, toList_of_le hle]
    rfl

theorem toList_advance (windows : PageWindows) : windows.advance.toList = windows.toList.tail := by
  rcases Nat.lt_or_ge windows.start windows.stop with hlt | hle
  · rw [advance, next?_of_lt hlt, toList_of_lt hlt]
    rfl
  · rw [advance, next?_of_le hle, Option.map_none, Option.getD_none, toList_of_le hle,
      List.tail_nil]

/-- Every call takes one window from those that are still to come. -/
theorem toList_iterate (windows : PageWindows) (calls : Nat) :
    (advance^[calls] windows).toList = windows.toList.drop calls := by
  induction calls generalizing windows with
  | zero => rfl
  | succ calls ih => rw [Function.iterate_succ_apply, ih, toList_advance, List.drop_tail]

/-- The call after any number of calls yields the next window, or nothing once all are taken. -/
theorem next?_iterate (windows : PageWindows) (calls : Nat) :
    (advance^[calls] windows).next?.map Prod.fst = windows.toList[calls]? := by
  rw [next?_eq_head?, toList_iterate, List.head?_drop]

/-! ## Ranges -/

theorem ofRange_eq_ok_iff {base len : Nat} :
    ofRange base len = .ok windows ↔
      (base < addressSpace ∧ base + len ≤ addressSpace) ∧ windows = ⟨base, base + len⟩ := by
  rw [ofRange, checkRange]
  split <;> rename_i h
  · simp only [Except.map, Except.ok.injEq, h, and_self, true_and, eq_comm]
  · simp only [Except.map, reduceCtorEq, h, false_and]

/-- A range is cut into windows exactly if the address space holds it.  The windows partition it,
there are none only for an empty range, and after any number of calls the count is that of the
windows still to come and the next call yields the first of these, or nothing when there are none
left. -/
theorem ofRange_partitions (base len : Nat) :
    ((∃ windows, ofRange base len = .ok windows) ↔
        base < addressSpace ∧ base + len ≤ addressSpace) ∧
      ∀ windows, ofRange base len = .ok windows →
        (windows.toList = [] ↔ len = 0) ∧ Partition base (base + len) windows.toList ∧
          ∀ calls, (advance^[calls] windows).next?.map Prod.fst = windows.toList[calls]? ∧
            (advance^[calls] windows).remaining = windows.toList.length - calls := by
  refine ⟨?_, fun windows hwindows => ?_⟩
  · simp only [ofRange_eq_ok_iff, exists_and_left, exists_eq, and_true]
  · obtain ⟨-, rfl⟩ := ofRange_eq_ok_iff.1 hwindows
    refine ⟨?_, partition_toList ⟨base, base + len⟩ (Nat.le_add_right _ _),
      fun calls => ⟨next?_iterate _ _, ?_⟩⟩
    · rw [← not_iff_not, ← ne_eq, toList_ne_nil]
      simp only
      omega
    · rw [remaining_eq_length, toList_iterate, List.length_drop]

/-- A range that starts and ends inside pages: part of a page, a page, and part of one again. -/
example : (ofRange 0xF0 300).map toList =
    .ok [⟨0xF0, 0x100⟩, ⟨0x100, 0x200⟩, ⟨0x200, 0x21C⟩] := by
  cbv

end CardReader.Flash.PageWindows
