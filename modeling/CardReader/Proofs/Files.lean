import CardReader.Files

/-!
# Files that are kept

What a directory gives back after a file in it has been written.  A path that is a single name
leads to that name alone, so a file is read as it was written last, and the others stay as they
are.

What is proved here:

* `lookup_put` — what stands under names after other names, or the same, have been given contents;
* `keeps_of_plain` — a file with a plain name gives back what was written last;
* `spares_of_plain` — writing it leaves every other such file alone.
-/

namespace CardReader.Files

variable {files last : Files} {contents : ByteArray}

/-! ## Entries -/

theorem lookup_put (names other : List String) (contents : ByteArray) :
    ∀ entries : List (List String × ByteArray), (put names contents entries).lookup other =
      if other = names then some contents else entries.lookup other
  | [] => by
    rw [put, List.lookup_cons]
    by_cases h : other = names
    · rw [if_pos h, h, beq_self_eq_true]
    · rw [if_neg h, beq_eq_false_iff_ne.2 h]
  | (first, old) :: rest => by
    have ih := lookup_put names other contents rest
    rw [put]
    by_cases hfirst : first = names
    · rw [if_pos hfirst, List.lookup_cons, List.lookup_cons, hfirst]
      by_cases h : other = names
      · rw [if_pos h, h, beq_self_eq_true]
      · rw [if_neg h, beq_eq_false_iff_ne.2 h]
    · rw [if_neg hfirst, List.lookup_cons, ih, List.lookup_cons]
      by_cases h : other = names
      · have hother : (other == first) = false :=
          beq_eq_false_iff_ne.2 (by rw [h]; exact Ne.symm hfirst)
        rw [hother, if_pos h]
      · rw [if_neg h, if_neg h]

/-- Names that lead to no directory make none. -/
theorem any_put {names : List String} (property : List String → Bool) (h : property names = false)
    (contents : ByteArray) : ∀ entries : List (List String × ByteArray),
    (put names contents entries).any (fun entry => property entry.1) =
      entries.any fun entry => property entry.1
  | [] => by simp [put, h]
  | (first, old) :: rest => by
    rw [put]
    by_cases hfirst : first = names
    · simp [hfirst]
    · rw [if_neg hfirst, List.any_cons, List.any_cons, any_put property h contents rest]

/-! ## Plain names -/

/-- A path that is a single name. -/
structure Plain (path : String) : Prop where
  nonempty : path ≠ ""
  noSlash : '/' ∉ path.toList
  noNull : '\x00' ∉ path.toList
  ne_dot : path ≠ "."
  ne_dots : path ≠ ".."
  short : path.utf8ByteSize ≤ longestName

variable {path other : String}

theorem Plain.names_eq (h : Plain path) : names path = [path] := by
  have hsplit : path.toList.splitOn '/' = [path.toList] :=
    List.splitOnP_eq_singleton fun c hc => beq_eq_false_iff_ne.2 fun heq => h.noSlash (heq ▸ hc)
  rw [names, hsplit, List.map_singleton, String.ofList_toList]

theorem Plain.locate_eq (h : Plain path) {adjust : List String → List String}
    (hadjust : adjust [path] = [path]) : files.locate path adjust = .ok (files.look [path]) := by
  have hnull : path.toList.contains '\x00' = false := by
    simpa using h.noNull
  have hempty : path.isEmpty = false := by
    simpa using h.nonempty
  have hlong : ¬longestPath < path.utf8ByteSize :=
    Nat.not_lt.2 (Nat.le_trans h.short (by decide))
  have hstart : path.toList.head? ≠ some '/' := fun hhead =>
    h.noSlash (List.mem_of_mem_head? hhead)
  have hname : ¬longestName < path.utf8ByteSize := Nat.not_lt.2 h.short
  rw [locate, hnull, hempty, if_neg Bool.false_ne_true, if_neg Bool.false_ne_true, if_neg hlong,
    if_neg hstart, h.names_eq, hadjust, walk, hempty,
    if_neg (by simp [h.ne_dot]), if_neg h.ne_dots, if_neg hname, walk]
  rfl

theorem Plain.holder_eq (h : Plain path) : holder [path] = [path] := by
  rw [holder, List.reverse_singleton]
  split
  · rename_i heq
    exact absurd (List.cons.inj heq).1 h.nonempty
  · rfl

theorem Plain.read_eq (h : Plain path) : files.read path =
    match files.look [path] with
    | .file _ contents => .ok contents
    | .directory _ => .error .isDirectory
    | .vacant _ => .error .notFound := by
  rw [read, h.locate_eq rfl]
  rfl

theorem Plain.ne_nullDevice (path : String) : [path] ≠ nullDevice := fun h => by cases h

theorem Plain.look_eq (files : Files) (path : String) : files.look [path] =
    match files.entries.lookup [path] with
    | some contents => .file [path] contents
    | none => if files.isDirectory [path] then .directory [path] else .vacant [path] := by
  cases hentry : files.entries.lookup [path] <;>
    simp only [look, if_neg (ne_nullDevice path), hentry]

/-- Writing a plain name gives it these contents. -/
theorem Plain.eq_put_of_write (h : Plain path) (hwrite : files.write path contents = .ok last) :
    last = ⟨put [path] contents files.entries⟩ := by
  rw [write, h.locate_eq h.holder_eq, look_eq] at hwrite
  cases hentry : files.entries.lookup [path] with
  | some old =>
    rw [hentry] at hwrite
    cases hwrite
    rw [if_neg (ne_nullDevice path)]
  | none =>
    rw [hentry] at hwrite
    cases hdirectory : files.isDirectory [path] with
    | true =>
      simp only [hdirectory, if_true] at hwrite
      cases hwrite
    | false =>
      simp only [hdirectory, Bool.false_eq_true, if_false] at hwrite
      cases hwrite
      rw [if_neg (ne_nullDevice path)]

/-! ## What is kept -/

/-- A file with this path is read as it was written last. -/
def Keeps (path : String) : Prop :=
  ∀ (files : Files) (contents : ByteArray) (last : Files),
    files.write path contents = .ok last → last.read path = .ok contents

/-- Writing the one file leaves the other alone. -/
def Spares (path other : String) : Prop :=
  ∀ (files : Files) (contents : ByteArray) (last : Files),
    files.write path contents = .ok last → last.read other = files.read other

theorem keeps_of_plain (h : Plain path) : Keeps path := by
  intro files contents last hwrite
  rw [h.read_eq, h.eq_put_of_write hwrite, Plain.look_eq, lookup_put, if_pos rfl]

theorem spares_of_plain (h : Plain path) (hother : Plain other) (hne : other ≠ path) :
    Spares path other := by
  intro files contents last hwrite
  have hdirectory : last.isDirectory [other] = files.isDirectory [other] := by
    rw [h.eq_put_of_write hwrite, isDirectory, isDirectory]
    refine congrArg _ ?_
    exact any_put (fun file => decide ([other].length < file.length) && [other].isPrefixOf file)
      (by simp) contents files.entries
  have hlookup : last.entries.lookup [other] = files.entries.lookup [other] := by
    rw [h.eq_put_of_write hwrite, lookup_put, if_neg fun heq => hne (List.cons.inj heq).1]
  rw [hother.read_eq, hother.read_eq, Plain.look_eq, Plain.look_eq, hlookup, hdirectory]

end CardReader.Files
