import Mathlib.Control.Monad.Basic
import CardReader.Proofs.Program.Containment

/-!
# Starting again after a timeout

A program that ran into a timeout names its window, and the caller may program what is left from
there.  Without a transform this completes the job: programming bytes over themselves changes
nothing.  With one it does so only if numbering the blocks from the window gives the tweaks that
numbering them from the base gave, or if a byte was there already and the tweaks differ in none of
its bits: the blocks of the second program are numbered from the start again.

What is proved here:

* `slice_eq_iff` — a slice of the cells as a statement about each of them;
* `and_eq_iff_of_xor` — what is left of a byte of one image under a byte of the other;
* `program_restart_iff` — exactly when the second program completes the job, and
  `program_restart_fails` — a payload with which it does not.
-/

namespace CardReader

open Flash

/-! ## Bytes under two images -/

theorem and_xor_distrib (a b c : UInt8) : a &&& (b ^^^ c) = a &&& b ^^^ a &&& c :=
  UInt8.toBitVec_inj.1 (BitVec.eq_of_getElem_eq (by simp [Bool.and_xor_distrib_left]))

/-- A cell is erased or holds its byte of the first image; programming the byte of the second
image leaves the byte of the first only if the two are the same, or if the byte is there already
and lacks the bits in which they differ. -/
theorem and_eq_iff_of_xor {cell first second s t : UInt8} (hxor : first ^^^ s = second ^^^ t)
    (hcell : cell = Part.erasedByte ∨ cell = first) :
    cell &&& second = first ↔ t = s ∨ cell = first ∧ first &&& (t ^^^ s) = 0 := by
  have hsecond : second = first ^^^ (t ^^^ s) := by
    rw [UInt8.xor_comm t s, ← UInt8.xor_assoc, hxor, UInt8.xor_assoc, UInt8.xor_self,
      UInt8.xor_zero]
  have hsame : ∀ x : UInt8, first ^^^ x = first ↔ x = 0 := fun x => by
    have h := UInt8.xor_right_inj (a := x) (b := 0) first
    rwa [UInt8.xor_zero] at h
  have hboth : first &&& second = first ↔ first &&& (t ^^^ s) = 0 := by
    rw [hsecond, and_xor_distrib, UInt8.and_self, hsame]
  have hblank : Part.erasedByte &&& second = first ↔ t = s := by
    rw [UInt8.and_comm, Part.Cells.and_erasedByte, hsecond, hsame, UInt8.xor_eq_zero_iff]
  constructor
  · intro h
    rcases hcell with rfl | rfl
    · exact .inl (hblank.1 h)
    · exact .inr ⟨rfl, hboth.1 h⟩
  · rintro (rfl | ⟨rfl, hbits⟩)
    · rcases hcell with rfl | rfl
      · exact hblank.2 rfl
      · exact hboth.2 (by rw [UInt8.xor_self, UInt8.and_zero])
    · exact hboth.2 hbits

namespace Part.Cells

/-- A slice holds a run of bytes if each of its cells does. -/
theorem slice_eq_iff {cells : Cells} {start : Nat} {bytes : List UInt8}
    (hfit : start + bytes.length ≤ cells.size) :
    cells.slice start bytes.length = bytes ↔
      ∀ i (hi : i < bytes.length), cells.cell (start + i) = bytes[i] := by
  constructor
  · intro h i hi
    rw [← getElem_slice hfit i (by rwa [length_slice])]
    exact List.getElem_of_eq h _
  · intro h
    refine List.ext_getElem (length_slice _ _ _) fun i hslice hi => ?_
    rw [getElem_slice hfit i hslice]
    exact h i hi

end Part.Cells

namespace Flash.Controller

/-! ## The two images -/

section Images

variable {payload : List UInt8} {cipher : CipherMode} {base start : Nat}

/-- From the window on, the two images are the transform of the same bytes under two numberings. -/
theorem overlay_xor_tweak (hcipher : cipher ≠ .none) (hstart : base ≤ start)
    (hle : start ≤ base + payload.length) (hwhole : (start - base) % Cipher.blockSize = 0)
    {addr : Nat} (haddr : start ≤ addr)
    (hlt : addr < base + (Cipher.encipher payload cipher).image.length) :
    Part.Cells.overlay base (Cipher.encipher payload cipher).image addr ^^^
        Cipher.tweak ((addr - base) / Cipher.blockSize) =
      Part.Cells.overlay start (Cipher.encipher (payload.drop (start - base)) cipher).image addr ^^^
        Cipher.tweak ((addr - start) / Cipher.blockSize) := by
  have hskip : start - base ≤ payload.length := by omega
  have hlength := Cipher.length_image payload cipher
  have hrest := Cipher.length_padded cipher (payload.drop (start - base))
  rw [Cipher.padded_drop hcipher hwhole hskip, List.length_drop, Cipher.length_padded] at hrest
  have hwhole' := Cipher.length_padded_mod hcipher (payload.drop (start - base))
  rw [Cipher.length_padded, ← hrest] at hwhole'
  have hdiv : (addr - base) / Cipher.blockSize =
      (start - base) / Cipher.blockSize + (addr - start) / Cipher.blockSize := by
    simp only [Cipher.blockSize] at hwhole ⊢
    omega
  have hfirst : Part.Cells.overlay base (Cipher.encipher payload cipher).image addr =
      (Cipher.encipherFrom cipher ((start - base) / Cipher.blockSize)
        (Cipher.padded (payload.drop (start - base)) cipher)).getD (addr - start)
        Part.erasedByte := by
    rw [← Cipher.drop_image hcipher hwhole hskip, Part.Cells.overlay, if_pos (by omega),
      show addr - base = start - base + (addr - start) by omega, List.getD_eq_getElem?_getD,
      List.getD_eq_getElem?_getD, List.getElem?_drop]
  have hsecond : Part.Cells.overlay start
      (Cipher.encipher (payload.drop (start - base)) cipher).image addr =
      (Cipher.encipherFrom cipher 0
        (Cipher.padded (payload.drop (start - base)) cipher)).getD (addr - start)
        Part.erasedByte := by
    rw [← Cipher.image_encipher hcipher, Part.Cells.overlay, if_pos haddr]
  have htweaks := Cipher.encipherFrom_xor_tweak hcipher
    (Cipher.padded (payload.drop (start - base)) cipher) Part.erasedByte
    ((start - base) / Cipher.blockSize) 0 (addr - start) (by
      rw [Cipher.length_padded, ← hrest, Nat.div_mul_cancel (Nat.dvd_of_mod_eq_zero hwhole')]
      omega)
  rw [Nat.zero_add] at htweaks
  rw [hfirst, hsecond, hdiv]
  exact htweaks

/-- Without a transform the image of the rest is the rest of the image. -/
theorem overlay_drop (hstart : base ≤ start) {addr : Nat} (haddr : start ≤ addr) :
    Part.Cells.overlay start (Cipher.encipher (payload.drop (start - base)) .none).image addr =
      Part.Cells.overlay base (Cipher.encipher payload .none).image addr := by
  have himage : ∀ bytes : List UInt8, (Cipher.encipher bytes .none).image = bytes :=
    fun bytes => List.append_nil bytes
  rw [himage, himage, Part.Cells.overlay, Part.Cells.overlay, if_pos haddr, if_pos (by omega),
    List.getD_eq_getElem?_getD, List.getD_eq_getElem?_getD, List.getElem?_drop,
    show start - base + (addr - start) = addr - base by omega]

/-- A window of a payload starts a whole number of blocks behind the base. -/
theorem sub_mod_of_mem_windows {window : Window} (hcipher : cipher ≠ .none)
    (halign : base % Cipher.blockSize = 0)
    (h : window ∈ windows base (Cipher.encipher payload cipher)) :
    (window.start - base) % Cipher.blockSize = 0 := by
  obtain ⟨hle, -, hstart⟩ := start_of_mem_windows h
  rw [Cipher.length_body hcipher] at hstart
  simp only [Cipher.blockSize, pageSize] at halign hstart ⊢
  omega

end Images

/-! ## The two programs -/

section Restart

variable {config : ControllerConfig} {base start : Nat} {payload : List UInt8} {useDma : Bool}
  {cipher : CipherMode} {rig mid resumed last : Rig FaultyPart} {stats : ProgramStats}

/-- What a program leaves that timed out on an erased range: the window is one of the payload's,
the range up to it holds the image, and each cell from there on is erased or holds the image. -/
structure Interrupted (base start : Nat) (payload : List UInt8) (cipher : CipherMode)
    (cells : Part.Cells) : Prop where
  whole : cipher ≠ .none → (start - base) % Cipher.blockSize = 0
  base_le : base ≤ start
  le_base : start ≤ base + payload.length
  done : ∀ addr, base ≤ addr → addr < start →
    cells.cell addr = Part.Cells.overlay base (Cipher.encipher payload cipher).image addr
  cell_eq : ∀ addr, base ≤ addr → addr < base + (Cipher.encipher payload cipher).image.length →
    cells.cell addr = Part.erasedByte ∨
      cells.cell addr = Part.Cells.overlay base (Cipher.encipher payload cipher).image addr

theorem interrupted_of_timeout
    (hfit : base + Cipher.paddedLength payload.length cipher ≤ rig.bus.part.cells.size)
    (hlisten : Part.Listening rig.clock rig.bus.part)
    (herased : ∀ addr, base ≤ addr → addr < base + Cipher.paddedLength payload.length cipher →
      rig.bus.part.cells.cell addr = Part.erasedByte)
    (hplanned : ∀ failure, rig.bus.plan.Plans failure → failure.window? = none)
    (hfailed : program config base payload useDma cipher rig =
      (.error (.programTimeout start), mid)) :
    Interrupted base start payload cipher mid.bus.part.cells ∧
      mid.bus.part.cells.size = rig.bus.part.cells.size := by
  have hlength := Cipher.length_image payload cipher
  have hblank : ∀ addr byte, base ≤ addr →
      addr < base + (Cipher.encipher payload cipher).image.length →
      rig.bus.part.cells.cell addr &&& byte = byte := by
    intro addr byte hle hlt
    rw [herased addr hle (by omega), UInt8.and_comm, Part.Cells.and_erasedByte]
  have hpasses : Passes config base payload useDma cipher (Bus.features rig.bus) := by
    refine Classical.byContradiction fun hnot => ?_
    cases ((Op.ends_of_error hfailed).1 (ends_program_of_not_passes hnot)).2
  have hstopped := (Op.ends_of_error hfailed).1 (ends_program_contained hfit hplanned)
  obtain ⟨window, hwindow, rfl, hreached⟩ := hstopped.reached hlisten start rfl
  obtain ⟨hle, hbody, -⟩ := start_of_mem_windows hwindow
  have hbody' := Cipher.length_body_le payload cipher
  have hpadded := Cipher.length_le_paddedLength payload.length cipher
  refine ⟨⟨fun hcipher => ?_, hle, by omega, fun addr hbase hlt => ?_, fun addr hbase hlt => ?_⟩,
    hstopped.contained.size_eq⟩
  · exact sub_mod_of_mem_windows hcipher
      ((checkProgram_eq_ok_iff.1 hpasses.check_eq).2.2 hcipher) hwindow
  · have hcell := hreached.before_start addr hlt
    rwa [show Part.Cells.cell (Rig.part rig).cells addr = rig.bus.part.cells.cell addr from rfl,
      hblank addr _ hbase (by omega)] at hcell
  · rcases hstopped.contained.cell_eq addr with hcell | hcell
    · exact .inl (hcell.trans (herased addr hbase (by omega)))
    · refine .inr (hcell.trans ?_)
      exact hblank addr _ hbase hlt

/-- The second program programs the rest of the payload. -/
theorem programmed_rest (h : Interrupted base start payload cipher resumed.bus.part.cells)
    (hfit : base + Cipher.paddedLength payload.length cipher ≤ resumed.bus.part.cells.size)
    (hready : Part.Listening resumed.clock resumed.bus.part)
    (hcleared : ∀ failure, ¬resumed.bus.plan.Plans failure)
    (hdone : program config start (payload.drop (start - base)) useDma cipher resumed =
      (.ok stats, last)) :
    Part.Cells.Programmed resumed.bus.part.cells last.bus.part.cells start
      (Cipher.encipher (payload.drop (start - base)) cipher).image := by
  have hstart := h.base_le
  have hle := h.le_base
  have hpadded := Cipher.length_le_paddedLength payload.length cipher
  have hrest := Cipher.paddedLength_sub h.whole (show start - base ≤ payload.length by omega)
  have hroom : start + Cipher.paddedLength (payload.drop (start - base)).length cipher ≤
      resumed.bus.part.cells.size := by
    rw [List.length_drop, hrest]
    omega
  have hsecond := (Op.ends_of_ok hdone).1
    (ends_program_contained hroom fun failure h => absurd h (hcleared failure))
  have hprogrammed := hsecond.2.2.programmed hready
  rwa [bytes_plan] at hprogrammed

section Resumed

variable {cells after : Part.Cells}

/-- Up to the window the second program leaves alone what the first has programmed. -/
theorem Interrupted.cell_before (h : Interrupted base start payload cipher cells)
    (hsecond : Part.Cells.Programmed cells after start
      (Cipher.encipher (payload.drop (start - base)) cipher).image)
    {i : Nat} (hi : i < (Cipher.encipher payload cipher).image.length) (hlt : base + i < start) :
    after.cell (base + i) = (Cipher.encipher payload cipher).image[i] := by
  rw [hsecond.cell_eq, Part.Cells.overlay_of_lt _ hlt, Part.Cells.and_erasedByte,
    h.done (base + i) (Nat.le_add_right _ _) hlt]
  exact Part.Cells.overlay_add base i _ hi

theorem Interrupted.cell_from (h : Interrupted base start payload cipher cells) {i : Nat}
    (hi : i < (Cipher.encipher payload cipher).image.length) :
    cells.cell (base + i) = Part.erasedByte ∨
      cells.cell (base + i) = (Cipher.encipher payload cipher).image[i] := by
  rw [← Part.Cells.overlay_add base i _ hi]
  exact h.cell_eq (base + i) (Nat.le_add_right _ _) (Nat.add_lt_add_left hi base)

/-- Without a transform, programming a byte over itself changes nothing. -/
theorem Interrupted.cell_of_none (h : Interrupted base start payload .none cells)
    (hsecond : Part.Cells.Programmed cells after start
      (Cipher.encipher (payload.drop (start - base)) .none).image)
    {i : Nat} (hi : i < (Cipher.encipher payload .none).image.length) (hge : start ≤ base + i) :
    after.cell (base + i) = (Cipher.encipher payload .none).image[i] := by
  rw [hsecond.cell_eq, overlay_drop h.base_le hge, Part.Cells.overlay_add base i _ hi]
  rcases h.cell_from hi with hblank | hthere
  · rw [hblank, UInt8.and_comm, Part.Cells.and_erasedByte]
  · rw [hthere, UInt8.and_self]

/-- With a transform, a byte from the window on is what it should be if the second program gives
it the tweak of the first, or if it was there and the tweaks differ in none of its bits. -/
theorem Interrupted.cell_iff (hcipher : cipher ≠ .none)
    (h : Interrupted base start payload cipher cells)
    (hsecond : Part.Cells.Programmed cells after start
      (Cipher.encipher (payload.drop (start - base)) cipher).image)
    {i : Nat} (hi : i < (Cipher.encipher payload cipher).image.length) (hge : start ≤ base + i) :
    after.cell (base + i) = (Cipher.encipher payload cipher).image[i] ↔
      Cipher.tweak ((base + i - start) / Cipher.blockSize) =
          Cipher.tweak (i / Cipher.blockSize) ∨
        cells.cell (base + i) = (Cipher.encipher payload cipher).image[i] ∧
          (Cipher.encipher payload cipher).image[i] &&&
            (Cipher.tweak ((base + i - start) / Cipher.blockSize) ^^^
              Cipher.tweak (i / Cipher.blockSize)) = 0 := by
  have htweak := overlay_xor_tweak hcipher h.base_le h.le_base (h.whole hcipher) hge
    (Nat.add_lt_add_left hi base)
  rw [Part.Cells.overlay_add base i _ hi, Nat.add_sub_cancel_left] at htweak
  rw [hsecond.cell_eq]
  exact and_eq_iff_of_xor htweak (h.cell_from hi)

end Resumed

/-- The second program completes the job exactly if there is no transform or if, from its window
on, each byte is transformed under the same tweak as before, or was there already and has none of
the bits in which the tweaks differ. -/
theorem program_restart_iff
    (hfit : base + Cipher.paddedLength payload.length cipher ≤ rig.bus.part.cells.size)
    (hlisten : Part.Listening rig.clock rig.bus.part)
    (herased : ∀ addr, base ≤ addr → addr < base + Cipher.paddedLength payload.length cipher →
      rig.bus.part.cells.cell addr = Part.erasedByte)
    (hplanned : ∀ failure, rig.bus.plan.Plans failure → failure.window? = none)
    (hfailed : program config base payload useDma cipher rig =
      (.error (.programTimeout start), mid))
    (hcells : resumed.bus.part.cells = mid.bus.part.cells)
    (hready : Part.Listening resumed.clock resumed.bus.part)
    (hcleared : ∀ failure, ¬resumed.bus.plan.Plans failure)
    (hdone : program config start (payload.drop (start - base)) useDma cipher resumed =
      (.ok stats, last)) :
    let image := (Cipher.encipher payload cipher).image
    Cipher.decipher (last.bus.part.cells.slice base image.length) cipher =
        Cipher.padded payload cipher ↔
      cipher = .none ∨ ∀ i (hi : i < image.length), start ≤ base + i →
        Cipher.tweak ((base + i - start) / Cipher.blockSize) =
            Cipher.tweak (i / Cipher.blockSize) ∨
          mid.bus.part.cells.cell (base + i) = image[i] ∧
            image[i] &&& (Cipher.tweak ((base + i - start) / Cipher.blockSize) ^^^
              Cipher.tweak (i / Cipher.blockSize)) = 0 := by
  intro image
  obtain ⟨hmid, hmidsize⟩ := interrupted_of_timeout hfit hlisten herased hplanned hfailed
  rw [← hcells] at hmid hmidsize ⊢
  rw [← hmidsize] at hfit
  have hsecond := programmed_rest hmid hfit hready hcleared hdone
  have hlength : image.length = Cipher.paddedLength payload.length cipher :=
    Cipher.length_image payload cipher
  rw [Cipher.decipher_eq_padded_iff (by rw [Part.Cells.length_slice, hlength]),
    Part.Cells.slice_eq_iff (by rw [hsecond.size_eq, hlength]; exact hfit)]
  by_cases hcipher : cipher = .none
  · subst hcipher
    refine iff_of_true (fun i hi => ?_) (.inl rfl)
    rcases Nat.lt_or_ge (base + i) start with hlt | hge
    · exact hmid.cell_before hsecond hi hlt
    · exact hmid.cell_of_none hsecond hi hge
  · rw [or_iff_right hcipher]
    constructor
    · intro h i hi hge
      exact (hmid.cell_iff hcipher hsecond hi hge).1 (h i hi)
    · intro h i hi
      rcases Nat.lt_or_ge (base + i) start with hlt | hge
      · exact hmid.cell_before hsecond hi hlt
      · exact (hmid.cell_iff hcipher hsecond hi hge).2 (h i hi hge)

end Restart

/-- The rig after a program that failed, once nothing is lost any more. -/
def repaired (rig : Rig FaultyPart) : Rig FaultyPart :=
  { bus := { part := rig.bus.part }, clock := rig.clock }

/-- A program that timed out in its first window completes the job when it is started again. -/
theorem program_restart_first_window :
    let mid := (program {} 0 [1, 2, 3] true .modeA (lossyRig 64 0)).2
    let last := (program {} 0 [1, 2, 3] true .modeA (repaired mid)).2
    (program {} 0 [1, 2, 3] true .modeA (lossyRig 64 0)).1 = .error (.programTimeout 0) ∧
      Cipher.decipher (last.bus.part.cells.slice 0 32) .modeA =
        Cipher.padded [1, 2, 3] .modeA := by
  intro mid last
  have hfailed : (program {} 0 [1, 2, 3] true .modeA (lossyRig 64 0)).1 =
      .error (.programTimeout 0) := by
    decide +kernel
  have hdone : (program {} 0 [1, 2, 3] true .modeA (repaired mid)).1 =
      .ok (statsOf 0 true (Cipher.encipher [1, 2, 3] .modeA)) := by
    decide +kernel
  have hsize : (lossyRig 64 0).bus.part.cells.size = 64 := Part.Cells.size_erased 64
  have herased : ∀ addr, (lossyRig 64 0).bus.part.cells.cell addr = Part.erasedByte :=
    Part.Cells.cell_erased 64
  have hcleared : ∀ failure, ¬(repaired mid).bus.plan.Plans failure := by
    rintro failure ⟨kind, call, hfailure⟩
    cases kind <;> cases hfailure
  have hrestored := (program_restart_iff (by rw [hsize]; decide) (by decide)
    (fun addr _ _ => herased addr) (fun _ => window?_of_lossyRig) (Prod.ext hfailed rfl)
    (show (repaired mid).bus.part.cells = mid.bus.part.cells from rfl) (by decide +kernel) hcleared
    (Prod.ext hdone rfl)).2 (.inr fun i _ _ => .inl (by rw [Nat.zero_add, Nat.sub_zero]))
  rw [Cipher.length_image] at hrestored
  exact ⟨hfailed, hrestored⟩

/-- The tail of this payload is the second block, but the second program transforms it as the
first: the job is not completed. -/
theorem program_restart_fails :
    let payload := List.replicate 33 0
    let mid := (program {} 0 payload true .modeA (lossyRig 64 1)).2
    let last := (program {} 32 (payload.drop 32) true .modeA (repaired mid)).2
    (program {} 0 payload true .modeA (lossyRig 64 1)).1 = .error (.programTimeout 32) ∧
      Part.Listening (repaired mid).clock (repaired mid).bus.part ∧
      (program {} 32 (payload.drop 32) true .modeA (repaired mid)).1.toOption.isSome = true ∧
      Cipher.decipher (last.bus.part.cells.slice 0 64) .modeA ≠ Cipher.padded payload .modeA := by
  decide +kernel

end Flash.Controller

end CardReader
