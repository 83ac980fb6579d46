import Mathlib.Data.Set.Function
import CardReader.Proofs.Cipher

/-!
# The transform as a bijection

Transforming and deciphering are inverse to each other.  In the one direction the padding comes
back with the payload; in the other nothing is padded, because an image of whole blocks has no
bytes left over.  Between byte strings of a given number of whole blocks the transform is
therefore a bijection, in either mode and without one.

What is proved here:

* `programmedLength_encipher` — as many bytes are programmed as the padded payload has;
* `encipher_decipher` — an image of whole blocks is the transform of what it is deciphered to,
  without a tail;
* `bijOn_image` — the bijection, and `encipher_invertible` — both directions together.
-/

namespace CardReader.Flash.Cipher

variable {mode : CipherMode}

/-! ## Lengths -/

theorem Enciphered.length_image_eq (enciphered : Enciphered) :
    enciphered.image.length = enciphered.programmedLength := by
  unfold image programmedLength
  cases enciphered.tail <;> simp

/-- As many bytes are programmed as the padded payload has. -/
theorem programmedLength_encipher (payload : List UInt8) (mode : CipherMode) :
    (encipher payload mode).programmedLength = paddedLength payload.length mode := by
  rw [← Enciphered.length_image_eq, length_image]

/-- Whole blocks need no padding. -/
theorem paddedLength_of_dvd {len : Nat} (h : blockSize ∣ len) (mode : CipherMode) :
    paddedLength len mode = len := by
  by_cases hmode : mode = .none
  · subst hmode
    rfl
  · obtain ⟨blocks, rfl⟩ := h
    rw [paddedLength_of_ne hmode]
    simp only [blockSize]
    omega

theorem padded_of_dvd {payload : List UInt8} (h : blockSize ∣ payload.length)
    (mode : CipherMode) : padded payload mode = payload := by
  simp [padded, paddedLength_of_dvd h]

/-! ## Images of whole blocks -/

/-- An image of whole blocks is the transform of what it is deciphered to, and nothing of it is a
tail. -/
theorem encipher_decipher {image : List UInt8} (h : blockSize ∣ image.length)
    (mode : CipherMode) : encipher (decipher image mode) mode = ⟨image, none⟩ := by
  by_cases hmode : mode = .none
  · subst hmode
    rfl
  · have hwhole : image.length % blockSize = 0 := Nat.mod_eq_zero_of_dvd h
    have hrest : (decipher image mode).drop
        ((decipher image mode).length / blockSize * blockSize) = [] := by
      rw [length_decipher, Nat.div_mul_cancel h]
      exact List.drop_of_length_le (Nat.le_of_eq (length_decipher image mode))
    rw [encipher_of_ne hmode, encipherFrom_decipher hmode hwhole, hrest]
    rfl

/-- Deciphering is the inverse of the transform on byte strings of a number of whole blocks. -/
theorem invOn_decipher (mode : CipherMode) (blocks : Nat) :
    Set.InvOn (decipher · mode) (fun payload => (encipher payload mode).image)
      { payload | payload.length = blockSize * blocks }
      { image | image.length = blockSize * blocks } := by
  constructor
  · intro payload hpayload
    have hdvd : blockSize ∣ payload.length := ⟨blocks, hpayload⟩
    show decipher (encipher payload mode).image mode = payload
    rw [decipher_image, padded_of_dvd hdvd]
  · intro image himage
    have hdvd : blockSize ∣ image.length := ⟨blocks, himage⟩
    show (encipher (decipher image mode) mode).image = image
    rw [encipher_decipher hdvd]
    exact List.append_nil image

/-- The transform is a bijection between byte strings of a given number of whole blocks. -/
theorem bijOn_image (mode : CipherMode) (blocks : Nat) :
    Set.BijOn (fun payload => (encipher payload mode).image)
      { payload | payload.length = blockSize * blocks }
      { image | image.length = blockSize * blocks } := by
  refine (invOn_decipher mode blocks).bijOn ?_ ?_
  · intro payload hpayload
    show (encipher payload mode).image.length = _
    rw [length_image, paddedLength_of_dvd ⟨blocks, hpayload⟩]
    exact hpayload
  · intro image himage
    exact (length_decipher image mode).trans himage

/-! ## Both directions -/

/-- The transform can be undone.  What is programmed for a payload is deciphered to the payload and
its padding: a body of the whole blocks, and a tail exactly if bytes are left over.  Conversely an
image of whole blocks is the body of what it is deciphered to, so that the transform is a bijection
on images of each number of blocks. -/
theorem encipher_invertible (mode : CipherMode) :
    (∀ payload, decipher (encipher payload mode).image mode =
        payload ++ List.replicate (paddedLength payload.length mode - payload.length) 0xFF ∧
      (mode ≠ .none →
        (encipher payload mode).body.length = 32 * (payload.length / 32) ∧
        ((encipher payload mode).tail.isSome = true ↔ ¬32 ∣ payload.length) ∧
        (encipher payload mode).programmedLength = paddedLength payload.length mode)) ∧
    (∀ image : List UInt8, 32 ∣ image.length →
      (encipher (decipher image mode) mode).tail = none ∧
        (encipher (decipher image mode) mode).body = image) ∧
    ∀ blocks, Set.BijOn (fun payload => (encipher payload mode).image)
      { payload | payload.length = 32 * blocks } { image | image.length = 32 * blocks } := by
  refine ⟨fun payload => ⟨decipher_image payload mode, fun hmode => ⟨?_, ?_, ?_⟩⟩, ?_,
    bijOn_image mode⟩
  · rw [length_body hmode, Nat.mul_comm]
    rfl
  · rw [isSome_tail, Nat.dvd_iff_mod_eq_zero]
    exact and_iff_right hmode
  · exact programmedLength_encipher payload mode
  · intro image hwhole
    rw [encipher_decipher hwhole]
    exact ⟨rfl, rfl⟩

/-- A payload of one block and two bytes under the second transform, and an image of two blocks. -/
theorem encipher_invertible_two_blocks :
    CipherMode.modeB ≠ .none ∧ 32 ∣ (List.replicate 64 (0x5A : UInt8)).length ∧
      (encipher (List.replicate 34 7) .modeB).body.length = 32 ∧
      (encipher (List.replicate 34 7) .modeB).tail.isSome = true ∧
      decipher (encipher (List.replicate 34 7) .modeB).image .modeB =
        List.replicate 34 7 ++ List.replicate 30 0xFF ∧
      (encipher (decipher (List.replicate 64 0x5A) .modeB) .modeB).body =
        List.replicate 64 0x5A := by
  obtain ⟨hpayload, himage, -⟩ := encipher_invertible .modeB
  have hmode : CipherMode.modeB ≠ .none := by decide
  have hwhole : 32 ∣ (List.replicate 64 (0x5A : UInt8)).length := by decide
  obtain ⟨hback, hshape⟩ := hpayload (List.replicate 34 7)
  obtain ⟨hbody, htail, -⟩ := hshape hmode
  exact ⟨hmode, hwhole, hbody, htail.2 (by decide), hback, (himage _ hwhole).2⟩

end CardReader.Flash.Cipher
