import Mathlib.Data.List.GetD
import CardReader.Flash.Cipher

/-!
# The block transform undone

The transform works on whole blocks, each on its own, and the number of a block enters it through
one tweak byte alone.  An image is therefore the transform of the padded payload, block by block,
and numbering the blocks from elsewhere changes every byte by the two tweaks of its block.

What is proved here:

* `decipherBlock_encipherBlock` and `encipherBlock_decipherBlock` — each undoes the other;
* `image_encipher` and `length_image` — the image is the transform of the padded payload;
* `decipher_image` and `decipher_inj` — deciphering gives the padded payload back, and no other
  bytes of whole blocks do;
* `encipherFrom_xor_tweak` — what the number of the first block changes.
-/

namespace CardReader.Flash.Cipher

/-! ## Bytes -/

theorem rotateRight_rotateLeft (byte : UInt8) : rotateRight (rotateLeft byte) = byte := by
  have h : ∀ i : Fin 256, rotateRight (rotateLeft (UInt8.ofFin i)) = UInt8.ofFin i := by
    decide +kernel
  exact h byte.toFin

theorem rotateLeft_rotateRight (byte : UInt8) : rotateLeft (rotateRight byte) = byte := by
  have h : ∀ i : Fin 256, rotateLeft (rotateRight (UInt8.ofFin i)) = UInt8.ofFin i := by
    decide +kernel
  exact h byte.toFin

theorem xor_xor_xor_xor (byte k t : UInt8) : byte ^^^ k ^^^ t ^^^ k ^^^ t = byte := by
  rw [UInt8.xor_assoc byte k t, UInt8.xor_assoc (byte ^^^ (k ^^^ t)) k t, UInt8.xor_assoc,
    UInt8.xor_self, UInt8.xor_zero]

/-! ## Halves -/

variable {key half : List UInt8} {t : UInt8}

theorem length_combine (h : half.length ≤ key.length) :
    (combine key t half).length = half.length := by
  rw [combine, List.length_zipWith]
  omega

/-- Combining twice gives the bytes back. -/
theorem combine_combine (t : UInt8) (h : half.length ≤ key.length) :
    combine key t (combine key t half) = half := by
  induction half generalizing key with
  | nil => rfl
  | cons byte half ih =>
    cases key with
    | nil => cases h
    | cons k key =>
      show (byte ^^^ k ^^^ t ^^^ k ^^^ t) :: combine key t (combine key t half) = _
      rw [xor_xor_xor_xor, ih (Nat.le_of_succ_le_succ h)]

/-- The tweak is combined last. -/
theorem combine_eq_map (key half : List UInt8) (t : UInt8) :
    combine key t half = (combine key 0 half).map (· ^^^ t) := by
  simp [combine, List.map_zipWith]

/-! ## Blocks -/

variable {mode : CipherMode} {index : Nat} {block : List UInt8}

theorem length_halves (h : block.length = blockSize) :
    (block.take halfSize).length = halfSize ∧ (block.drop halfSize).length = halfSize := by
  simp only [blockSize, halfSize, List.length_take, List.length_drop] at h ⊢
  omega

theorem length_encipherBlock (mode : CipherMode) (index : Nat) (h : block.length = blockSize) :
    (encipherBlock mode index block).length = blockSize := by
  obtain ⟨hfirst, hsecond⟩ := length_halves h
  cases mode with
  | none => exact h
  | modeA | modeB =>
    rw [encipherBlock, List.length_append, length_combine, length_combine]
    all_goals simp only [List.length_reverse, List.length_map, hfirst, hsecond]
    all_goals decide

theorem length_decipherBlock (mode : CipherMode) (index : Nat) (h : block.length = blockSize) :
    (decipherBlock mode index block).length = blockSize := by
  obtain ⟨hfirst, hsecond⟩ := length_halves h
  cases mode with
  | none => exact h
  | modeA | modeB =>
    unfold decipherBlock
    simp only [List.length_append, List.length_reverse, List.length_map]
    rw [length_combine, length_combine]
    all_goals simp only [hfirst, hsecond]
    all_goals decide

/-- A block put together from halves falls apart into them. -/
theorem halves_append {first second : List UInt8} (h : first.length = halfSize) :
    (first ++ second).take halfSize = first ∧ (first ++ second).drop halfSize = second :=
  ⟨List.take_left' h, List.drop_left' h⟩

theorem decipherBlock_encipherBlock (mode : CipherMode) (index : Nat)
    (h : block.length = blockSize) :
    decipherBlock mode index (encipherBlock mode index block) = block := by
  obtain ⟨hfirst, hsecond⟩ := length_halves h
  cases mode with
  | none => rfl
  | modeA =>
    have hlength : (block.take halfSize).reverse.length ≤ keyA.length := by
      rw [List.length_reverse, hfirst]
      decide
    have hlength' : (block.drop halfSize).reverse.length ≤ keyA.length := by
      rw [List.length_reverse, hsecond]
      decide
    have hhalf : (combine keyA (tweak index) (block.take halfSize).reverse).length = halfSize := by
      rw [length_combine hlength, List.length_reverse, hfirst]
    rw [encipherBlock, decipherBlock, (halves_append hhalf).1, (halves_append hhalf).2,
      combine_combine _ hlength, combine_combine _ hlength', List.reverse_reverse,
      List.reverse_reverse, List.take_append_drop]
  | modeB =>
    have hlength : ((block.take halfSize).reverse.map rotateLeft).length ≤ keyB.length := by
      rw [List.length_map, List.length_reverse, hfirst]
      decide
    have hlength' : ((block.drop halfSize).reverse.map rotateLeft).length ≤ keyB.length := by
      rw [List.length_map, List.length_reverse, hsecond]
      decide
    have hhalf : (combine keyB (tweak index)
        ((block.drop halfSize).reverse.map rotateLeft)).length = halfSize := by
      rw [length_combine hlength', List.length_map, List.length_reverse, hsecond]
    have hrotate : rotateRight ∘ rotateLeft = id := funext rotateRight_rotateLeft
    rw [encipherBlock, decipherBlock, (halves_append hhalf).1, (halves_append hhalf).2,
      combine_combine _ hlength, combine_combine _ hlength', List.map_map, List.map_map, hrotate,
      List.map_id, List.map_id, List.reverse_reverse, List.reverse_reverse, List.take_append_drop]

theorem encipherBlock_decipherBlock (mode : CipherMode) (index : Nat)
    (h : block.length = blockSize) :
    encipherBlock mode index (decipherBlock mode index block) = block := by
  obtain ⟨hfirst, hsecond⟩ := length_halves h
  cases mode with
  | none => rfl
  | modeA =>
    have hlength : (block.take halfSize).length ≤ keyA.length := by
      rw [hfirst]
      decide
    have hlength' : (block.drop halfSize).length ≤ keyA.length := by
      rw [hsecond]
      decide
    have hhalf : (combine keyA (tweak index) (block.take halfSize)).reverse.length = halfSize := by
      rw [List.length_reverse, length_combine hlength, hfirst]
    rw [encipherBlock, decipherBlock, (halves_append hhalf).1, (halves_append hhalf).2,
      List.reverse_reverse, List.reverse_reverse, combine_combine _ hlength,
      combine_combine _ hlength', List.take_append_drop]
  | modeB =>
    have hlength : (block.take halfSize).length ≤ keyB.length := by
      rw [hfirst]
      decide
    have hlength' : (block.drop halfSize).length ≤ keyB.length := by
      rw [hsecond]
      decide
    have hhalf : ((combine keyB (tweak index) (block.drop halfSize)).map
        rotateRight).reverse.length = halfSize := by
      rw [List.length_reverse, List.length_map, length_combine hlength', hsecond]
    have hrotate : rotateLeft ∘ rotateRight = id := funext rotateLeft_rotateRight
    rw [encipherBlock, decipherBlock, (halves_append hhalf).1, (halves_append hhalf).2,
      List.reverse_reverse, List.reverse_reverse, List.map_map, List.map_map, hrotate, List.map_id,
      List.map_id, combine_combine _ hlength, combine_combine _ hlength', List.take_append_drop]

/-- The number of a block adds its tweak to every byte. -/
theorem encipherBlock_eq_map (hmode : mode ≠ .none) (index : Nat) (block : List UInt8) :
    encipherBlock mode index block = (encipherBlock mode 0 block).map (· ^^^ tweak index) := by
  have hzero : tweak 0 = 0 := by decide
  cases mode with
  | none => exact absurd rfl hmode
  | modeA =>
    rw [encipherBlock, encipherBlock, List.map_append, hzero, combine_eq_map _ _ (tweak index),
      combine_eq_map keyA (block.drop halfSize).reverse (tweak index)]
  | modeB =>
    rw [encipherBlock, encipherBlock, List.map_append, hzero, combine_eq_map _ _ (tweak index),
      combine_eq_map keyB ((block.take halfSize).reverse.map rotateLeft) (tweak index)]

/-! ## Runs of blocks -/

section Blocks

variable {change : Nat → List UInt8 → List UInt8} {rest : Nat → List UInt8 → List UInt8}

theorem mapBlocks_of_lt {bytes : List UInt8} (h : bytes.length < blockSize) :
    mapBlocks change rest index bytes = rest index bytes := by
  rw [mapBlocks, dif_neg]
  rw [List.length_take]
  omega

theorem mapBlocks_nil : mapBlocks change rest index [] = rest index [] :=
  mapBlocks_of_lt (by decide)

theorem mapBlocks_append (h : block.length = blockSize) (bytes : List UInt8) :
    mapBlocks change rest index (block ++ bytes) =
      change index block ++ mapBlocks change rest (index + 1) bytes := by
  have hblock : (block ++ bytes).take blockSize = block := List.take_left' h
  rw [mapBlocks]
  simp only [hblock, List.drop_left' h]
  rw [dif_pos h]

/-- Bytes are whole blocks and less than a block after them. -/
theorem blocks_induction {motive : Nat → List UInt8 → Prop}
    (short : ∀ index bytes, bytes.length < blockSize → motive index bytes)
    (whole : ∀ index block bytes, block.length = blockSize → motive (index + 1) bytes →
      motive index (block ++ bytes))
    (index : Nat) (bytes : List UInt8) : motive index bytes := by
  by_cases hlength : bytes.length < blockSize
  · exact short index bytes hlength
  · have hblock : (bytes.take blockSize).length = blockSize := by
      rw [List.length_take]
      omega
    rw [← List.take_append_drop blockSize bytes]
    exact whole index _ _ hblock (blocks_induction short whole (index + 1) (bytes.drop blockSize))
termination_by bytes.length
decreasing_by
  simp only [blockSize, List.length_drop] at hlength ⊢
  omega

/-- Bytes left over after whole blocks are dropped. -/
def nothing (_ : Nat) (_ : List UInt8) : List UInt8 := []

theorem length_mapBlocks
    (hchange : ∀ index block, block.length = blockSize → (change index block).length = blockSize)
    (index : Nat) (bytes : List UInt8) :
    (mapBlocks change nothing index bytes).length = bytes.length / blockSize * blockSize := by
  induction index, bytes using blocks_induction with
  | short index bytes h =>
    rw [mapBlocks_of_lt h, Nat.div_eq_of_lt h, Nat.zero_mul]
    rfl
  | whole index block bytes h ih =>
    rw [mapBlocks_append h, List.length_append, ih, hchange index block h, List.length_append, h,
      Nat.add_div_left _ (by decide), Nat.succ_mul, Nat.add_comm]

/-- Whole blocks in front are transformed on their own. -/
theorem mapBlocks_append_whole (index : Nat) (front bytes : List UInt8)
    (hfront : front.length % blockSize = 0) :
    mapBlocks change nothing index (front ++ bytes) =
      mapBlocks change nothing index front ++
        mapBlocks change nothing (index + front.length / blockSize) bytes := by
  induction index, front using blocks_induction with
  | short index front h =>
    rw [Nat.mod_eq_of_lt h, List.length_eq_zero_iff] at hfront
    rw [hfront, mapBlocks_nil]
    rfl
  | whole index block front h ih =>
    rw [List.length_append, h, Nat.add_mod_left] at hfront
    rw [List.append_assoc, mapBlocks_append h, mapBlocks_append h, ih hfront, List.append_assoc,
      List.length_append, h, Nat.add_div_left _ (by decide), Nat.add_assoc, Nat.add_comm 1]

/-- A change that is undone block by block is undone for a run of whole blocks. -/
theorem mapBlocks_mapBlocks {undo : Nat → List UInt8 → List UInt8}
    (hchange : ∀ index block, block.length = blockSize → (change index block).length = blockSize)
    (hundo : ∀ index block, block.length = blockSize → undo index (change index block) = block)
    {rest' : Nat → List UInt8 → List UInt8} (hrest : ∀ index, rest index [] = [])
    (hrest' : ∀ index, rest' index [] = []) (index : Nat) (bytes : List UInt8)
    (hwhole : bytes.length % blockSize = 0) :
    mapBlocks undo rest' index (mapBlocks change rest index bytes) = bytes := by
  induction index, bytes using blocks_induction with
  | short index bytes h =>
    rw [Nat.mod_eq_of_lt h, List.length_eq_zero_iff] at hwhole
    rw [hwhole, mapBlocks_nil, hrest, mapBlocks_nil, hrest']
  | whole index block bytes h ih =>
    rw [List.length_append, h, Nat.add_mod_left] at hwhole
    rw [mapBlocks_append h, mapBlocks_append (hchange index block h), hundo index block h,
      ih hwhole]

end Blocks

/-! ## Payloads -/

/-- The blocks of a byte string transformed, numbered from `index` on. -/
def encipherFrom (mode : CipherMode) (index : Nat) (bytes : List UInt8) : List UInt8 :=
  mapBlocks (encipherBlock mode) nothing index bytes

/-- The payload filled up to whole blocks, if it is to be transformed. -/
def padded (payload : List UInt8) (mode : CipherMode) : List UInt8 :=
  payload ++ List.replicate (paddedLength payload.length mode - payload.length) padding

variable {payload : List UInt8}

theorem length_encipherFrom (mode : CipherMode) (index : Nat) (bytes : List UInt8) :
    (encipherFrom mode index bytes).length = bytes.length / blockSize * blockSize :=
  length_mapBlocks (fun index _ => length_encipherBlock mode index) index bytes

theorem paddedLength_of_ne (hmode : mode ≠ .none) (len : Nat) :
    paddedLength len mode = (len + (blockSize - 1)) / blockSize * blockSize := by
  cases mode with
  | none => exact absurd rfl hmode
  | modeA => rfl
  | modeB => rfl

theorem encipher_of_ne (hmode : mode ≠ .none) (payload : List UInt8) :
    encipher payload mode =
      { body := encipherFrom mode 0 payload
        tail :=
          if (payload.drop (payload.length / blockSize * blockSize)).isEmpty then none
          else some (encipherBlock mode (payload.length / blockSize)
            (payload.drop (payload.length / blockSize * blockSize) ++
              List.replicate
                (blockSize - (payload.drop (payload.length / blockSize * blockSize)).length)
                padding)) } := by
  cases mode with
  | none => exact absurd rfl hmode
  | modeA => rfl
  | modeB => rfl

theorem encipherFrom_append (mode : CipherMode) (index : Nat) {front : List UInt8} {blocks : Nat}
    (hfront : front.length = blocks * blockSize) (bytes : List UInt8) :
    encipherFrom mode index (front ++ bytes) =
      encipherFrom mode index front ++ encipherFrom mode (index + blocks) bytes := by
  have hpos : 0 < blockSize := by decide
  rw [encipherFrom, mapBlocks_append_whole index front bytes (by rw [hfront, Nat.mul_mod_left]),
    hfront, Nat.mul_div_cancel _ hpos]
  rfl

@[simp] theorem encipherFrom_nil (mode : CipherMode) (index : Nat) :
    encipherFrom mode index [] = [] :=
  mapBlocks_nil

theorem encipherFrom_of_lt (mode : CipherMode) (index : Nat) {bytes : List UInt8}
    (h : bytes.length < blockSize) : encipherFrom mode index bytes = [] :=
  mapBlocks_of_lt h

theorem encipherFrom_block (mode : CipherMode) (index : Nat) (h : block.length = blockSize) :
    encipherFrom mode index block = encipherBlock mode index block := by
  have hblock : encipherFrom mode index (block ++ []) =
      encipherBlock mode index block ++ encipherFrom mode (index + 1) [] := mapBlocks_append h []
  rwa [List.append_nil, encipherFrom_nil, List.append_nil] at hblock

/-- How much padding a payload takes. -/
theorem length_padded_sub (hmode : mode ≠ .none) (payload : List UInt8) :
    paddedLength payload.length mode - payload.length =
      if payload.length % blockSize = 0 then 0 else blockSize - payload.length % blockSize := by
  rw [paddedLength_of_ne hmode]
  by_cases h : payload.length % blockSize = 0
  · rw [if_pos h]
    simp only [blockSize] at h ⊢
    omega
  · rw [if_neg h]
    simp only [blockSize] at h ⊢
    omega

/-- The transformed image is the transform of the padded payload. -/
theorem image_encipher (hmode : mode ≠ .none) (payload : List UInt8) :
    (encipher payload mode).image = encipherFrom mode 0 (padded payload mode) := by
  have hsplit := Nat.div_add_mod' payload.length blockSize
  have hlt := Nat.mod_lt payload.length (by decide : 0 < blockSize)
  generalize hblocks : payload.length / blockSize = blocks at hsplit
  have hfront : (payload.take (blocks * blockSize)).length = blocks * blockSize := by
    rw [List.length_take]
    omega
  have hrest : (payload.drop (blocks * blockSize)).length = payload.length % blockSize := by
    rw [List.length_drop]
    omega
  have hbody : encipherFrom mode 0 payload =
      encipherFrom mode 0 (payload.take (blocks * blockSize)) := by
    have h := encipherFrom_append mode 0 hfront (payload.drop (blocks * blockSize))
    have hshort : (payload.drop (blocks * blockSize)).length < blockSize := by omega
    rwa [List.take_append_drop, encipherFrom_of_lt mode _ hshort, List.append_nil] at h
  rw [encipher_of_ne hmode, Cipher.Enciphered.image, hblocks, hbody]
  by_cases hempty : payload.length % blockSize = 0
  · have hpadded : padded payload mode = payload := by
      have hlength := length_padded_sub hmode payload
      rw [if_pos hempty] at hlength
      rw [padded, hlength, List.replicate_zero, List.append_nil]
    rw [if_pos (List.isEmpty_iff_length_eq_zero.2 (hrest.trans hempty)), hpadded, hbody]
    exact List.append_nil _
  · have hlength := length_padded_sub hmode payload
    rw [if_neg hempty] at hlength
    have hpadded : padded payload mode = payload.take (blocks * blockSize) ++
        (payload.drop (blocks * blockSize) ++
          List.replicate (blockSize - payload.length % blockSize) padding) := by
      rw [padded, hlength, ← List.append_assoc, List.take_append_drop]
    have hlast : (payload.drop (blocks * blockSize) ++
        List.replicate (blockSize - payload.length % blockSize) padding).length = blockSize := by
      rw [List.length_append, List.length_replicate, hrest]
      omega
    rw [if_neg (by rw [List.isEmpty_iff_length_eq_zero, hrest]; exact hempty), hpadded, hrest,
      encipherFrom_append mode 0 hfront, encipherFrom_block _ _ hlast, Option.getD_some,
      Nat.zero_add]

theorem length_le_paddedLength (len : Nat) (mode : CipherMode) : len ≤ paddedLength len mode := by
  cases mode with
  | none => exact Nat.le_refl _
  | modeA | modeB =>
    simp only [paddedLength, blockSize]
    omega

/-- Padding makes whole blocks. -/
theorem length_padded (mode : CipherMode) (payload : List UInt8) :
    (padded payload mode).length = paddedLength payload.length mode := by
  have hle := length_le_paddedLength payload.length mode
  rw [padded, List.length_append, List.length_replicate]
  omega

theorem length_padded_mod (hmode : mode ≠ .none) (payload : List UInt8) :
    (padded payload mode).length % blockSize = 0 := by
  rw [length_padded, paddedLength_of_ne hmode, Nat.mul_mod_left]

/-- An image is as long as the padded payload. -/
theorem length_image (payload : List UInt8) (mode : CipherMode) :
    (encipher payload mode).image.length = paddedLength payload.length mode := by
  by_cases hmode : mode = .none
  · subst hmode
    rw [encipher, Enciphered.image, Option.getD_none, List.append_nil]
    rfl
  · have hwhole := length_padded_mod hmode payload
    rw [image_encipher hmode, length_encipherFrom, ← length_padded,
      Nat.div_mul_cancel (Nat.dvd_of_mod_eq_zero hwhole)]

theorem decipher_of_ne (hmode : mode ≠ .none) (image : List UInt8) :
    decipher image mode = mapBlocks (decipherBlock mode) (fun _ rest => rest) 0 image := by
  cases mode with
  | none => exact absurd rfl hmode
  | modeA => rfl
  | modeB => rfl

/-- Deciphering gives as many bytes as it is given, whole blocks or not. -/
theorem length_decipher (image : List UInt8) (mode : CipherMode) :
    (decipher image mode).length = image.length := by
  by_cases hmode : mode = .none
  · rw [hmode]
    rfl
  · have hlength : ∀ index bytes, (mapBlocks (decipherBlock mode) (fun _ rest => rest) index
        bytes).length = bytes.length := by
      intro index bytes
      induction index, bytes using blocks_induction with
      | short index bytes h => rw [mapBlocks_of_lt h]
      | whole index block bytes h ih =>
        rw [mapBlocks_append h, List.length_append, List.length_append, ih,
          length_decipherBlock mode index h, h]
    rw [decipher_of_ne hmode, hlength]

/-- Deciphering an image gives the padded payload back. -/
theorem decipher_image (payload : List UInt8) (mode : CipherMode) :
    decipher (encipher payload mode).image mode = padded payload mode := by
  by_cases hmode : mode = .none
  · subst hmode
    simp [encipher, Enciphered.image, decipher, padded, paddedLength]
  · rw [image_encipher hmode, decipher_of_ne hmode]
    exact mapBlocks_mapBlocks (fun index _ => length_encipherBlock mode index)
      (fun index _ => decipherBlock_encipherBlock mode index) (fun _ => rfl) (fun _ => rfl) 0
      (padded payload mode) (length_padded_mod hmode payload)

/-- Whole blocks that have been deciphered are transformed into what they were. -/
theorem encipherFrom_decipher (hmode : mode ≠ .none) {image : List UInt8}
    (hwhole : image.length % blockSize = 0) :
    encipherFrom mode 0 (decipher image mode) = image := by
  rw [decipher_of_ne hmode]
  exact mapBlocks_mapBlocks (fun index _ => length_decipherBlock mode index)
    (fun index _ => encipherBlock_decipherBlock mode index) (fun _ => rfl) (fun _ => rfl) 0 image
    hwhole

/-- Different whole blocks are deciphered differently. -/
theorem decipher_inj {a b : List UInt8} (ha : mode ≠ .none → a.length % blockSize = 0)
    (hb : mode ≠ .none → b.length % blockSize = 0) (h : decipher a mode = decipher b mode) :
    a = b := by
  by_cases hmode : mode = .none
  · subst hmode
    exact h
  · rw [← encipherFrom_decipher hmode (ha hmode), ← encipherFrom_decipher hmode (hb hmode), h]

/-- Only the image is deciphered to the padded payload. -/
theorem decipher_eq_padded_iff {bytes : List UInt8}
    (hlength : bytes.length = paddedLength payload.length mode) :
    decipher bytes mode = padded payload mode ↔ bytes = (encipher payload mode).image := by
  rw [← decipher_image]
  refine ⟨decipher_inj (fun hmode => ?_) fun hmode => ?_, fun h => by rw [h]⟩
  · rw [hlength, paddedLength_of_ne hmode, Nat.mul_mod_left]
  · rw [length_image, paddedLength_of_ne hmode, Nat.mul_mod_left]

/-! ## Body and tail -/

/-- The body of a payload is whole blocks, unless nothing is transformed. -/
theorem length_body (hmode : mode ≠ .none) (payload : List UInt8) :
    (encipher payload mode).body.length = payload.length / blockSize * blockSize := by
  rw [encipher_of_ne hmode, length_encipherFrom]

theorem length_body_le (payload : List UInt8) (mode : CipherMode) :
    (encipher payload mode).body.length ≤ payload.length := by
  by_cases hmode : mode = .none
  · rw [hmode]
    exact Nat.le_refl _
  · rw [length_body hmode]
    exact Nat.div_mul_le_self _ _

/-- There is a padded tail if bytes are left over after the whole blocks. -/
theorem isSome_tail : (encipher payload mode).tail.isSome = true ↔
    mode ≠ .none ∧ payload.length % blockSize ≠ 0 := by
  by_cases hmode : mode = .none
  · subst hmode
    exact ⟨nofun, fun h => absurd rfl h.1⟩
  · have hsplit := Nat.div_add_mod' payload.length blockSize
    have hempty : (payload.drop (payload.length / blockSize * blockSize)).isEmpty = true ↔
        payload.length % blockSize = 0 := by
      rw [List.isEmpty_iff_length_eq_zero, List.length_drop]
      omega
    rw [encipher_of_ne hmode]
    by_cases hrest : payload.length % blockSize = 0
    · rw [if_pos (hempty.2 hrest)]
      exact ⟨nofun, fun h => absurd hrest h.2⟩
    · rw [if_neg (mt hempty.1 hrest)]
      exact ⟨fun _ => ⟨hmode, hrest⟩, fun _ => rfl⟩

/-- A padded tail is one block, and there is none without a transform. -/
theorem length_tail {tail : List UInt8} (h : (encipher payload mode).tail = some tail) :
    mode ≠ .none ∧ tail.length = blockSize := by
  have hmode : mode ≠ .none := by
    rintro rfl
    cases h
  refine ⟨hmode, ?_⟩
  have himage := length_image payload mode
  have hbody := length_body hmode payload
  rw [Enciphered.image, h, Option.getD_some, List.length_append, hbody,
    paddedLength_of_ne hmode] at himage
  have htail : payload.length % blockSize ≠ 0 := (isSome_tail.1 (Option.isSome_of_eq_some h)).2
  simp only [blockSize] at himage htail ⊢
  omega

/-! ## Numbering -/

/-- The first block comes first, and the rest is numbered from the next one. -/
theorem encipherFrom_cons (index : Nat) {block : List UInt8} (bytes : List UInt8)
    (h : block.length = blockSize) :
    encipherFrom mode index (block ++ bytes) =
      encipherBlock mode index block ++ encipherFrom mode (index + 1) bytes := by
  rw [encipherFrom_append mode index (by rw [h, Nat.one_mul]), encipherFrom_block _ _ h]

/-- A byte of the first block is what the number zero makes of it, up to the tweak. -/
theorem encipherFrom_xor_tweak_first (hmode : mode ≠ .none) (index : Nat) {block : List UInt8}
    (bytes : List UInt8) (h : block.length = blockSize) (blank : UInt8) {i : Nat}
    (hi : i < blockSize) :
    (encipherFrom mode index (block ++ bytes)).getD i blank ^^^ tweak (index + i / blockSize) =
      (encipherBlock mode 0 block).getD i blank := by
  have hlength := length_encipherBlock mode 0 h
  rw [encipherFrom_cons index bytes h,
    List.getD_append _ _ _ _ (by rwa [length_encipherBlock _ _ h]),
    encipherBlock_eq_map hmode index, Nat.div_eq_of_lt hi, Nat.add_zero,
    List.getD_eq_getElem _ _ (by rwa [List.length_map, hlength]), List.getElem_map,
    List.getD_eq_getElem _ _ (by rwa [hlength]), UInt8.xor_assoc, UInt8.xor_self,
    UInt8.xor_zero]

/-- A byte behind the first block is a byte of the rest. -/
theorem encipherFrom_xor_tweak_rest (index : Nat) {block : List UInt8} (bytes : List UInt8)
    (h : block.length = blockSize) (blank : UInt8) {i : Nat} (hi : blockSize ≤ i) :
    (encipherFrom mode index (block ++ bytes)).getD i blank ^^^ tweak (index + i / blockSize) =
      (encipherFrom mode (index + 1) bytes).getD (i - blockSize) blank ^^^
        tweak (index + 1 + (i - blockSize) / blockSize) := by
  have hlength := length_encipherBlock mode index h
  have hdiv := Nat.div_eq_sub_div (show 0 < blockSize by decide) hi
  rw [encipherFrom_cons index bytes h, List.getD_append_right _ _ _ _ (by omega), hlength, hdiv,
    Nat.add_assoc index 1, Nat.add_comm 1]

/-- Transforms of the same bytes under two numberings differ by the tweaks of each block. -/
theorem encipherFrom_xor_tweak (hmode : mode ≠ .none) (bytes : List UInt8)
    (blank : UInt8) :
    ∀ (j k i : Nat), i < bytes.length / blockSize * blockSize →
      (encipherFrom mode j bytes).getD i blank ^^^ tweak (j + i / blockSize) =
        (encipherFrom mode k bytes).getD i blank ^^^ tweak (k + i / blockSize) := by
  induction (0 : Nat), bytes using blocks_induction with
  | short _ bytes h =>
    intro j k i hi
    rw [Nat.div_eq_of_lt h, Nat.zero_mul] at hi
    exact absurd hi (Nat.not_lt_zero _)
  | whole _ block bytes h ih =>
    intro j k i hi
    rw [List.length_append, h, Nat.add_div_left _ (by decide), Nat.succ_mul] at hi
    rcases Nat.lt_or_ge i blockSize with hfirst | hrest
    · rw [encipherFrom_xor_tweak_first hmode j bytes h blank hfirst,
        encipherFrom_xor_tweak_first hmode k bytes h blank hfirst]
    · rw [encipherFrom_xor_tweak_rest j bytes h blank hrest,
        encipherFrom_xor_tweak_rest k bytes h blank hrest]
      exact ih (j + 1) (k + 1) (i - blockSize) (by omega)

/-- The padded rest of a payload is the rest of the padded payload, from a whole block on. -/
theorem padded_drop (hmode : mode ≠ .none) {len : Nat} (hwhole : len % blockSize = 0)
    (hle : len ≤ payload.length) :
    padded (payload.drop len) mode = (padded payload mode).drop len := by
  have hsub : payload.length % blockSize = (payload.length - len) % blockSize := by
    simp only [blockSize] at hwhole ⊢
    omega
  rw [padded, padded, length_padded_sub hmode, length_padded_sub hmode, List.length_drop, ← hsub,
    List.drop_append_of_le_length hle]

theorem paddedLength_sub {len : Nat} (hwhole : mode ≠ .none → len % blockSize = 0)
    (hle : len ≤ payload.length) :
    paddedLength (payload.length - len) mode = paddedLength payload.length mode - len := by
  by_cases hmode : mode = .none
  · rw [hmode]
    rfl
  · have h := congrArg List.length (padded_drop hmode (hwhole hmode) hle)
    rwa [length_padded, List.length_drop, List.length_drop, length_padded] at h

/-- Past its first blocks, the image of a payload is the transform of the rest under the numbers
that its blocks have in the payload. -/
theorem drop_image (hmode : mode ≠ .none) {len : Nat} (hwhole : len % blockSize = 0)
    (hle : len ≤ payload.length) :
    (encipher payload mode).image.drop len =
      encipherFrom mode (len / blockSize) (padded (payload.drop len) mode) := by
  have hlen := Nat.div_mul_cancel (Nat.dvd_of_mod_eq_zero hwhole)
  have hpadded := length_le_paddedLength payload.length mode
  have hfront : ((padded payload mode).take len).length = len / blockSize * blockSize := by
    rw [List.length_take, length_padded, hlen]
    omega
  have happend := encipherFrom_append mode 0 hfront ((padded payload mode).drop len)
  rw [List.take_append_drop, Nat.zero_add] at happend
  have hskip : (encipherFrom mode 0 ((padded payload mode).take len)).length = len := by
    rw [length_encipherFrom, hfront, hlen, hlen]
  rw [image_encipher hmode, happend, List.drop_left' hskip, padded_drop hmode hwhole hle]

end CardReader.Flash.Cipher
