import CardReader.Flash.Geometry

/-!
# Page windows

A range to be programmed falls into windows that never cross a page boundary: the first ends at
the next boundary, those inside are whole pages, and the last ends with the range.  The windows
are taken from the range one by one; at any time it is known how many are still to come.
-/

namespace CardReader.Flash

/-- A run of addresses inside one page. -/
structure Window where
  /-- The first address. -/
  start : Nat
  /-- The address after the last one. -/
  stop : Nat
  deriving DecidableEq

/-- Addresses in a window. -/
def Window.length (window : Window) : Nat := window.stop - window.start

/-- What is left of a range to be cut into windows. -/
structure PageWindows where
  /-- The first address not yet in a window. -/
  start : Nat
  /-- The address after the range. -/
  stop : Nat
  deriving DecidableEq

namespace PageWindows

/-- The windows of a range, which must lie inside the address space. -/
def ofRange (base len : Nat) : Except Failure PageWindows :=
  (checkRange base len).map fun _ => ⟨base, base + len⟩

/-- The next window and what is left after it. -/
def next? (windows : PageWindows) : Option (Window × PageWindows) :=
  if windows.stop ≤ windows.start then none
  else
    let pageEnd := (windows.start / pageSize + 1) * pageSize
    let stop := min pageEnd windows.stop
    some (⟨windows.start, stop⟩, ⟨stop, windows.stop⟩)

/-- How many windows are still to come. -/
def remaining (windows : PageWindows) : Nat :=
  if windows.stop ≤ windows.start then 0
  else (windows.stop - 1) / pageSize - windows.start / pageSize + 1

/-- Taking a window leaves less of the range. -/
theorem length_next?_lt {windows rest : PageWindows} {window : Window}
    (h : windows.next? = some (window, rest)) :
    rest.stop - rest.start < windows.stop - windows.start := by
  unfold next? at h
  split at h
  · simp at h
  · simp only [Option.some.injEq, Prod.mk.injEq] at h
    obtain ⟨-, rfl⟩ := h
    simp only [pageSize]
    omega

/-- Every window still to come, in order. -/
def toList (windows : PageWindows) : List Window :=
  match _next : windows.next? with
  | none => []
  | some (window, rest) => window :: rest.toList
termination_by windows.stop - windows.start
decreasing_by exact length_next?_lt _next

end PageWindows

end CardReader.Flash
