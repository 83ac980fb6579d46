/-!
# Chunks

A list cut into runs of one length, of which only the last may be shorter.
-/

namespace CardReader

/-- Cuts a list into chunks of `size` elements; the last chunk holds what is left and is never
empty.  A size of nothing leaves the list in one piece. -/
def chunks {α : Type} (size : Nat) (list : List α) : List (List α) :=
  if list.isEmpty then []
  else if _whole : size = 0 then [list]
  else list.take size :: chunks size (list.drop size)
termination_by list.length
decreasing_by
  rename_i nonempty
  cases list with
  | nil => simp at nonempty
  | cons a rest =>
    simp only [List.length_drop, List.length_cons]
    omega

end CardReader
