import CardReader.Flash.Controller.Program

/-!
# The plan of a program

Which program transactions a payload takes, as a list that needs no rig: every window of the body
falls into chunks, and a padded tail is one more chunk.  What a program does to a part is then said
by one statement over the prefixes of this list.

What is proved here:

* `flatten_chunks` and `length_chunks` — chunks put together again, and how many there are;
* `PageWindows.toList_of_lt` and `PageWindows.paged_of_mem_toList` — the windows of a range one by
  one, none of which crosses a page boundary;
* `bytes_plan`, `placed_plan`, `mem_plan` and `length_plan` — the pieces of a plan are the image,
  one after another, each inside its window, and as many as the statistics say;
* `split_plan` — where in the image a piece of a plan stands.
-/

namespace CardReader

/-! ## Chunks -/

section Chunks

variable {α : Type} {size : Nat}

/-- The chunks of a list, put together again, are the list. -/
theorem flatten_chunks (size : Nat) (list : List α) : (chunks size list).flatten = list := by
  fun_induction chunks size list with
  | case1 list hempty => rw [List.isEmpty_iff.1 hempty, List.flatten_nil]
  | case2 list => rw [List.flatten_cons, List.flatten_nil, List.append_nil]
  | case3 list _ _ ih => rw [List.flatten_cons, ih, List.take_append_drop]

theorem ne_nil_of_mem_chunks {list chunk : List α} (h : chunk ∈ chunks size list) : chunk ≠ [] := by
  fun_induction chunks size list with
  | case1 => cases h
  | case2 list hempty => rwa [List.mem_singleton.1 h, ne_eq, ← List.isEmpty_iff]
  | case3 list hempty hsize ih =>
    rcases List.mem_cons.1 h with rfl | hrest
    · rw [ne_eq, List.take_eq_nil_iff, not_or]
      exact ⟨hsize, by rwa [← List.isEmpty_iff]⟩
    · exact ih hrest

theorem length_le_of_mem_chunks (hsize : 0 < size) {list chunk : List α}
    (h : chunk ∈ chunks size list) : chunk.length ≤ size := by
  fun_induction chunks size list with
  | case1 => cases h
  | case2 list _ hzero => omega
  | case3 list _ _ ih =>
    rcases List.mem_cons.1 h with rfl | hrest
    · exact List.length_take_le _ _
    · exact ih hrest

/-- How many transactions a run of bytes takes. -/
def chunkCount (size len : Nat) : Nat := (len + (size - 1)) / size

theorem length_chunks (hsize : 0 < size) (list : List α) :
    (chunks size list).length = chunkCount size list.length := by
  fun_induction chunks size list with
  | case1 list hempty =>
    rw [List.isEmpty_iff.1 hempty, chunkCount,
      Nat.div_eq_of_lt (by simp only [List.length_nil]; omega)]
    rfl
  | case2 list _ hzero => omega
  | case3 list hempty _ ih =>
    have hlength : 0 < list.length := List.length_pos_iff.2 (by rwa [ne_eq, ← List.isEmpty_iff])
    rw [List.length_cons, ih, List.length_drop, chunkCount, chunkCount]
    rcases Nat.le_total size list.length with hle | hle
    · rw [show list.length + (size - 1) = list.length - size + (size - 1) + size by omega,
        Nat.add_div_right _ hsize]
    · rw [Nat.sub_eq_zero_of_le hle, Nat.div_eq_of_lt (by omega : 0 + (size - 1) < size)]
      exact (Nat.div_eq_of_lt_le (by omega) (by omega)).symm

end Chunks

namespace Flash

/-! ## Windows -/

namespace PageWindows

variable {windows : PageWindows}

theorem next?_of_le (h : windows.stop ≤ windows.start) : windows.next? = none := if_pos h

/-- Where the window that starts at an address ends in a range. -/
def cut (windows : PageWindows) : Nat :=
  min ((windows.start / pageSize + 1) * pageSize) windows.stop

theorem next?_of_lt (h : windows.start < windows.stop) :
    windows.next? = some (⟨windows.start, windows.cut⟩, ⟨windows.cut, windows.stop⟩) :=
  if_neg (Nat.not_le.2 h)

theorem next?_eq_some {window : Window} {rest : PageWindows}
    (h : windows.next? = some (window, rest)) :
    windows.start < windows.stop ∧ window = ⟨windows.start, windows.cut⟩ ∧
      rest = ⟨windows.cut, windows.stop⟩ := by
  rcases Nat.lt_or_ge windows.start windows.stop with hlt | hle
  · rw [next?_of_lt hlt, Option.some.injEq, Prod.mk.injEq] at h
    exact ⟨hlt, h.1.symm, h.2.symm⟩
  · rw [next?_of_le hle] at h
    cases h

theorem next?_eq_none : windows.next? = none ↔ windows.stop ≤ windows.start := by
  refine ⟨fun h => Nat.le_of_not_lt fun hlt => ?_, next?_of_le⟩
  rw [next?_of_lt hlt] at h
  cases h

theorem lt_cut (h : windows.start < windows.stop) : windows.start < windows.cut := by
  simp only [cut, pageSize]
  omega

theorem cut_le (windows : PageWindows) : windows.cut ≤ windows.stop := Nat.min_le_right _ _

theorem toList_of_le (h : windows.stop ≤ windows.start) : windows.toList = [] := by
  rw [toList, next?_of_le h]

theorem toList_of_lt (h : windows.start < windows.stop) :
    windows.toList =
      ⟨windows.start, windows.cut⟩ :: (⟨windows.cut, windows.stop⟩ : PageWindows).toList := by
  rw [toList, next?_of_lt h]

theorem toList_ne_nil : windows.toList ≠ [] ↔ windows.start < windows.stop := by
  refine ⟨fun h => Nat.lt_of_not_le fun hle => h (toList_of_le hle), fun h => ?_⟩
  rw [toList_of_lt h]
  exact List.cons_ne_nil _ _

end PageWindows

/-- The window is not empty and lies inside one page. -/
structure Window.Paged (window : Window) : Prop where
  lt : window.start < window.stop
  page : window.start / pageSize = (window.stop - 1) / pageSize

theorem PageWindows.paged_of_mem_toList {windows : PageWindows} {window : Window}
    (h : window ∈ windows.toList) :
    window.Paged ∧ windows.start ≤ window.start ∧ window.stop ≤ windows.stop := by
  fun_induction toList windows with
  | case1 => cases h
  | case2 windows first rest hnext ih =>
    obtain ⟨hlt, rfl, rfl⟩ := next?_eq_some hnext
    have hcut := lt_cut hlt
    have hstop := windows.cut_le
    rcases List.mem_cons.1 h with rfl | hrest
    · refine ⟨⟨hcut, ?_⟩, Nat.le_refl _, hstop⟩
      simp only [cut, pageSize] at hcut ⊢
      omega
    · obtain ⟨hpaged, hstart, hle⟩ := ih hrest
      exact ⟨hpaged, Nat.le_trans (Nat.le_of_lt hcut) hstart, hle⟩

/-- A window starts with its range or with a page. -/
theorem PageWindows.start_of_mem_toList {windows : PageWindows} {window : Window}
    (h : window ∈ windows.toList) :
    window.start = windows.start ∨ window.start % pageSize = 0 := by
  fun_induction toList windows with
  | case1 => cases h
  | case2 windows first rest hnext ih =>
    obtain ⟨hlt, rfl, rfl⟩ := next?_eq_some hnext
    rcases List.mem_cons.1 h with rfl | hrest
    · exact .inl rfl
    · rcases ih hrest with hstart | hpage
      · rcases Nat.lt_or_ge windows.cut windows.stop with hcut | hdone
        · refine .inr ?_
          rw [hstart]
          simp only [cut, pageSize] at hcut ⊢
          omega
        · rw [toList_of_le hdone] at hrest
          cases hrest
      · exact .inr hpage

/-! ## Pieces -/

namespace Controller

/-- One program transaction. -/
structure Piece where
  /-- The window that the transaction belongs to. -/
  window : Window
  /-- The address of the first byte. -/
  addr : Nat
  /-- The bytes. -/
  data : List UInt8
  deriving DecidableEq

/-- The bytes of pieces, one after another. -/
def bytes (pieces : List Piece) : List UInt8 := pieces.flatMap Piece.data

@[simp] theorem bytes_nil : bytes [] = [] := rfl

@[simp] theorem bytes_cons (piece : Piece) (rest : List Piece) :
    bytes (piece :: rest) = piece.data ++ bytes rest := rfl

@[simp] theorem bytes_append (first second : List Piece) :
    bytes (first ++ second) = bytes first ++ bytes second :=
  List.flatMap_append

/-- Pieces with something in them are no more than their bytes. -/
theorem length_le_length_bytes {pieces : List Piece} (h : ∀ piece ∈ pieces, piece.data ≠ []) :
    pieces.length ≤ (bytes pieces).length := by
  induction pieces with
  | nil => exact Nat.le_refl _
  | cons piece rest ih =>
    obtain ⟨hfirst, hrest⟩ := List.forall_mem_cons.1 h
    have hpos := List.length_pos_iff.2 hfirst
    have hlength := ih hrest
    rw [bytes_cons, List.length_append, List.length_cons]
    omega

/-- The pieces lie one after another from an address on. -/
def Placed : Nat → List Piece → Prop
  | _, [] => True
  | addr, piece :: rest => piece.addr = addr ∧ Placed (addr + piece.data.length) rest

theorem placed_append {addr : Nat} {first second : List Piece} :
    Placed addr (first ++ second) ↔
      Placed addr first ∧ Placed (addr + (bytes first).length) second := by
  induction first generalizing addr with
  | nil => simp [Placed]
  | cons piece rest ih =>
    simp only [List.cons_append, Placed, ih, bytes_cons, List.length_append, and_assoc,
      Nat.add_assoc]

/-- The piece has bytes, all of them inside its window, and the window inside a page. -/
structure Piece.Proper (piece : Piece) : Prop where
  nonempty : piece.data ≠ []
  start_le : piece.window.start ≤ piece.addr
  le_stop : piece.addr + piece.data.length ≤ piece.window.stop
  paged : piece.window.Paged

/-- A proper piece stays inside a page. -/
theorem Piece.Proper.page {piece : Piece} (h : piece.Proper) :
    piece.addr % pageSize + piece.data.length ≤ pageSize := by
  obtain ⟨hnonempty, hstart, hstop, hlt, hpage⟩ := h
  have hpos := List.length_pos_iff.2 hnonempty
  simp only [pageSize] at hpage ⊢
  omega

/-! ## The pieces of a window -/

/-- Chunks placed one after another from an address on. -/
def place (window : Window) : Nat → List (List UInt8) → List Piece
  | _, [] => []
  | addr, data :: rest => ⟨window, addr, data⟩ :: place window (addr + data.length) rest

variable {window : Window}

theorem bytes_place (addr : Nat) (list : List (List UInt8)) :
    bytes (place window addr list) = list.flatten := by
  induction list generalizing addr with
  | nil => rfl
  | cons data rest ih => rw [place, bytes_cons, ih, List.flatten_cons]

theorem placed_place (addr : Nat) (list : List (List UInt8)) :
    Placed addr (place window addr list) := by
  induction list generalizing addr with
  | nil => trivial
  | cons data rest ih => exact ⟨rfl, ih _⟩

theorem length_place (addr : Nat) (list : List (List UInt8)) :
    (place window addr list).length = list.length := by
  induction list generalizing addr with
  | nil => rfl
  | cons data rest ih => rw [place, List.length_cons, ih, List.length_cons]

theorem mem_place {addr : Nat} {list : List (List UInt8)} {piece : Piece}
    (h : piece ∈ place window addr list) :
    piece.window = window ∧ piece.data ∈ list ∧ addr ≤ piece.addr ∧
      piece.addr + piece.data.length ≤ addr + list.flatten.length := by
  induction list generalizing addr with
  | nil => cases h
  | cons data rest ih =>
    simp only [List.flatten_cons, List.length_append]
    rcases List.mem_cons.1 h with rfl | hrest
    · exact ⟨rfl, List.mem_cons_self, Nat.le_refl _, by simp only; omega⟩
    · obtain ⟨hwindow, hmem, hstart, hstop⟩ := ih hrest
      exact ⟨hwindow, List.mem_cons_of_mem _ hmem, by omega, by omega⟩

/-- The pieces of one window. -/
def windowPieces (size : Nat) (window : Window) (data : List UInt8) : List Piece :=
  place window window.start (chunks size data)

theorem bytes_windowPieces (size : Nat) (window : Window) (data : List UInt8) :
    bytes (windowPieces size window data) = data := by
  rw [windowPieces, bytes_place, flatten_chunks]

theorem mem_windowPieces {size : Nat} (hsize : 0 < size) {data : List UInt8} {piece : Piece}
    (hpaged : window.Paged) (hlength : data.length ≤ window.length)
    (h : piece ∈ windowPieces size window data) :
    piece.window = window ∧ piece.Proper ∧ piece.data.length ≤ size := by
  obtain ⟨hwindow, hmem, hstart, hstop⟩ := mem_place h
  have hlt := hpaged.lt
  rw [flatten_chunks] at hstop
  rw [Window.length] at hlength
  refine ⟨hwindow, ⟨ne_nil_of_mem_chunks hmem, ?_, ?_, ?_⟩, length_le_of_mem_chunks hsize hmem⟩
  · rwa [hwindow]
  · rw [hwindow]
    omega
  · rwa [hwindow]

/-! ## The pieces of a body -/

/-- The pieces of the windows of a body, which `data` fills. -/
def bodyPieces (size : Nat) : List Window → List UInt8 → List Piece
  | [], _ => []
  | window :: rest, data =>
    windowPieces size window (data.take window.length) ++
      bodyPieces size rest (data.drop window.length)

/-- How many transactions windows take. -/
def transferCount (size : Nat) : List Window → Nat
  | [] => 0
  | window :: rest => chunkCount size window.length + transferCount size rest

section Body

variable {size : Nat} {windows : PageWindows} {data : List UInt8}

/-- The body of a range falls apart at the end of its first window. -/
theorem bodyPieces_of_lt (h : windows.start < windows.stop) (size : Nat) (data : List UInt8) :
    bodyPieces size windows.toList data =
      windowPieces size ⟨windows.start, windows.cut⟩ (data.take (windows.cut - windows.start)) ++
        bodyPieces size (⟨windows.cut, windows.stop⟩ : PageWindows).toList
          (data.drop (windows.cut - windows.start)) := by
  rw [PageWindows.toList_of_lt h]
  rfl

theorem bytes_bodyPieces (size : Nat) (hlength : data.length = windows.stop - windows.start) :
    bytes (bodyPieces size windows.toList data) = data := by
  fun_induction PageWindows.toList windows generalizing data with
  | case1 windows hnext =>
    have hempty := PageWindows.next?_eq_none.1 hnext
    rw [bodyPieces, List.eq_nil_of_length_eq_zero (by omega : data.length = 0), bytes_nil]
  | case2 windows first rest hnext ih =>
    obtain ⟨hlt, rfl, rfl⟩ := PageWindows.next?_eq_some hnext
    have hcut := PageWindows.lt_cut hlt
    rw [bodyPieces, bytes_append, bytes_windowPieces, ih, List.take_append_drop]
    simp only [List.length_drop, Window.length]
    omega

theorem placed_bodyPieces (size : Nat) (windows : PageWindows) {data : List UInt8}
    (hlength : data.length = windows.stop - windows.start) :
    Placed windows.start (bodyPieces size windows.toList data) := by
  fun_induction PageWindows.toList windows generalizing data with
  | case1 => trivial
  | case2 windows first rest hnext ih =>
    obtain ⟨hlt, rfl, rfl⟩ := PageWindows.next?_eq_some hnext
    have hcut := PageWindows.lt_cut hlt
    have hstop := windows.cut_le
    rw [bodyPieces, placed_append, bytes_windowPieces]
    refine ⟨placed_place _ _, ?_⟩
    have htaken : windows.start +
        (data.take (Window.length ⟨windows.start, windows.cut⟩)).length = windows.cut := by
      simp only [List.length_take, Window.length]
      omega
    rw [htaken]
    refine ih ?_
    simp only [List.length_drop, Window.length]
    omega

theorem mem_bodyPieces (hsize : 0 < size) {piece : Piece}
    (h : piece ∈ bodyPieces size windows.toList data) :
    piece.window ∈ windows.toList ∧ piece.Proper ∧ piece.data.length ≤ size := by
  have hpaged : ∀ window ∈ windows.toList, window.Paged :=
    fun window hwindow => (PageWindows.paged_of_mem_toList hwindow).1
  generalize windows.toList = list at h hpaged
  induction list generalizing data with
  | nil => cases h
  | cons window rest ih =>
    rw [bodyPieces] at h
    rcases List.mem_append.1 h with hfirst | hrest
    · obtain ⟨hwindow, hproper, hle⟩ :=
        mem_windowPieces hsize (hpaged window List.mem_cons_self) (List.length_take_le _ _) hfirst
      exact ⟨hwindow ▸ List.mem_cons_self, hproper, hle⟩
    · obtain ⟨hwindow, hproper, hle⟩ :=
        ih hrest fun other hother => hpaged other (List.mem_cons_of_mem _ hother)
      exact ⟨List.mem_cons_of_mem _ hwindow, hproper, hle⟩

theorem length_bodyPieces (hsize : 0 < size)
    (hlength : data.length = windows.stop - windows.start) :
    (bodyPieces size windows.toList data).length = transferCount size windows.toList := by
  fun_induction PageWindows.toList windows generalizing data with
  | case1 => rfl
  | case2 windows first rest hnext ih =>
    obtain ⟨hlt, rfl, rfl⟩ := PageWindows.next?_eq_some hnext
    have hcut := PageWindows.lt_cut hlt
    have hstop := windows.cut_le
    rw [bodyPieces, List.length_append, windowPieces, length_place, length_chunks hsize,
      transferCount, ih (by simp only [List.length_drop, Window.length]; omega)]
    congr 2
    simp only [List.length_take, Window.length]
    omega

end Body

/-! ## The plan -/

/-- The pieces of a padded tail: one, as long as it is no longer than a block. -/
def tailPieces (addr : Nat) : Option (List UInt8) → List Piece
  | none => []
  | some block => windowPieces Cipher.blockSize ⟨addr, addr + block.length⟩ block

/-- How many bytes a transaction for whole data carries at most. -/
def chunkSize (useDma : Bool) : Nat := if useDma then dmaChunk else registerChunk

theorem chunkSize_pos (useDma : Bool) : 0 < chunkSize useDma := by
  cases useDma <;> decide

/-- The transactions of a payload, in order. -/
def plan (base : Nat) (useDma : Bool) (enciphered : Cipher.Enciphered) : List Piece :=
  bodyPieces (chunkSize useDma)
      (⟨base, base + enciphered.body.length⟩ : PageWindows).toList enciphered.body ++
    tailPieces (base + enciphered.body.length) enciphered.tail

/-- The windows of a payload: those of its body, and one for a padded tail. -/
def windows (base : Nat) (enciphered : Cipher.Enciphered) : List Window :=
  (⟨base, base + enciphered.body.length⟩ : PageWindows).toList ++
    enciphered.tail.toList.map fun block =>
      ⟨base + enciphered.body.length, base + enciphered.body.length + block.length⟩

/-- A window of a payload starts with the payload, with a page or behind the body. -/
theorem start_of_mem_windows {base : Nat} {enciphered : Cipher.Enciphered} {window : Window}
    (h : window ∈ windows base enciphered) :
    base ≤ window.start ∧ window.start ≤ base + enciphered.body.length ∧
      (window.start = base ∨ window.start % pageSize = 0 ∨
        window.start = base + enciphered.body.length) := by
  rcases List.mem_append.1 h with hbody | htail
  · obtain ⟨hpaged, hle, hstop⟩ := PageWindows.paged_of_mem_toList hbody
    have hlt := hpaged.lt
    simp only at hle hstop
    refine ⟨hle, by omega, ?_⟩
    rcases PageWindows.start_of_mem_toList hbody with hstart | hpage
    · exact .inl hstart
    · exact .inr (.inl hpage)
  · obtain ⟨block, -, rfl⟩ := List.mem_map.1 htail
    exact ⟨Nat.le_add_right _ _, Nat.le_refl _, .inr (.inr rfl)⟩

/-- A padded tail at this address is one block inside a page. -/
structure TailFits (addr : Nat) (tail : Option (List UInt8)) : Prop where
  length_eq : ∀ block ∈ tail, block.length = Cipher.blockSize
  page : tail.isSome = true → addr % pageSize + Cipher.blockSize ≤ pageSize

variable {base addr : Nat} {enciphered : Cipher.Enciphered} {tail : Option (List UInt8)}

theorem TailFits.paged (h : TailFits addr tail) {block : List UInt8} (hblock : block ∈ tail) :
    Window.Paged ⟨addr, addr + block.length⟩ := by
  have hpage := h.page (Option.isSome_of_mem hblock)
  rw [h.length_eq block hblock]
  simp only [Cipher.blockSize, pageSize] at hpage ⊢
  exact ⟨by simp only; omega, by simp only [pageSize]; omega⟩

/-- The pieces of a plan put together are the image. -/
theorem bytes_plan (base : Nat) (useDma : Bool) (enciphered : Cipher.Enciphered) :
    bytes (plan base useDma enciphered) = enciphered.image := by
  have hbody : enciphered.body.length = base + enciphered.body.length - base := by omega
  rw [plan, bytes_append, bytes_bodyPieces _ hbody, Cipher.Enciphered.image]
  cases enciphered.tail with
  | none => rfl
  | some block => rw [tailPieces, bytes_windowPieces, Option.getD_some]

/-- The pieces of a plan lie one after another. -/
theorem placed_plan (base : Nat) (useDma : Bool) (enciphered : Cipher.Enciphered) :
    Placed base (plan base useDma enciphered) := by
  have hbody : enciphered.body.length = base + enciphered.body.length - base := by omega
  rw [plan, placed_append, bytes_bodyPieces _ hbody]
  refine ⟨placed_bodyPieces _ ⟨base, base + enciphered.body.length⟩ hbody, ?_⟩
  cases enciphered.tail with
  | none => trivial
  | some block => exact placed_place _ _

/-- Every piece of a plan stays inside its window. -/
theorem mem_plan {useDma : Bool} (htail : TailFits (base + enciphered.body.length) enciphered.tail)
    {piece : Piece} (h : piece ∈ plan base useDma enciphered) :
    piece.window ∈ windows base enciphered ∧ piece.Proper ∧
      (useDma = false → piece.data.length ≤ Cipher.blockSize) := by
  rcases List.mem_append.1 h with hbody | hrest
  · obtain ⟨hwindow, hproper, hle⟩ := mem_bodyPieces (chunkSize_pos useDma) hbody
    refine ⟨List.mem_append_left _ hwindow, hproper, ?_⟩
    rintro rfl
    exact Nat.le_trans hle (by decide)
  · cases hblock : enciphered.tail with
    | none =>
      rw [hblock] at hrest
      cases hrest
    | some block =>
      rw [hblock] at hrest
      obtain ⟨hwindow, hproper, hle⟩ := mem_windowPieces (by decide) (htail.paged hblock)
        (by simp only [Window.length]; omega) hrest
      refine ⟨List.mem_append_right _ ?_, hproper, fun _ => hle⟩
      rw [hwindow, hblock]
      exact List.mem_cons_self

/-- Before a piece of a plan stand the bytes of the pieces before it, and after it the others. -/
theorem split_plan {useDma : Bool} {sent rest : List Piece} {piece : Piece}
    (htail : TailFits (base + enciphered.body.length) enciphered.tail)
    (h : plan base useDma enciphered = sent ++ piece :: rest) :
    piece.addr = base + (bytes sent).length ∧
      enciphered.image = bytes sent ++ (piece.data ++ bytes rest) ∧
      piece.addr + piece.data.length ≤ base + enciphered.image.length ∧
      piece.window ∈ windows base enciphered ∧ piece.Proper ∧
      (useDma = false → piece.data.length ≤ Cipher.blockSize) := by
  have hplaced := placed_plan base useDma enciphered
  rw [h, placed_append] at hplaced
  have hbytes := bytes_plan base useDma enciphered
  rw [h, bytes_append, bytes_cons] at hbytes
  have haddr : piece.addr = base + (bytes sent).length := hplaced.2.1
  have hmem : piece ∈ plan base useDma enciphered := by
    rw [h]
    exact List.mem_append_right _ List.mem_cons_self
  refine ⟨haddr, hbytes.symm, ?_, mem_plan htail hmem⟩
  rw [haddr, ← hbytes]
  simp only [List.length_append]
  omega

theorem length_tailPieces (htail : TailFits addr tail) :
    (tailPieces addr tail).length = if tail.isSome then 1 else 0 := by
  cases tail with
  | none => rfl
  | some block =>
    rw [tailPieces, windowPieces, length_place, length_chunks (by decide),
      htail.length_eq block rfl]
    rfl

/-- A plan has as many pieces as the statistics count transactions. -/
theorem length_plan (useDma : Bool)
    (htail : TailFits (base + enciphered.body.length) enciphered.tail) :
    (plan base useDma enciphered).length =
      transferCount (chunkSize useDma)
          (⟨base, base + enciphered.body.length⟩ : PageWindows).toList +
        if enciphered.tail.isSome then 1 else 0 := by
  rw [plan, List.length_append, length_bodyPieces (chunkSize_pos useDma) (by simp only; omega),
    length_tailPieces htail]

end Controller

end Flash

end CardReader
