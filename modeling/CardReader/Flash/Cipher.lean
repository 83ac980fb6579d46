/-!
# The inline block transform

The controller can scramble data in blocks of 32 bytes on its way into the part.  Each block is
transformed on its own, under a tweak that depends on its number; a block counts as two halves of
sixteen bytes.  Only whole blocks can be transformed, so a payload becomes a body of whole blocks
and, if bytes are left over, one more block filled up with a padding byte.  The keys are fixed:
the transform can be undone by anyone and protects nothing.
-/

namespace CardReader.Flash

/-- The transform applied while programming. -/
inductive CipherMode where
  /-- The data is programmed as it is. -/
  | none
  /-- The first block transform. -/
  | modeA
  /-- The second block transform, which also rotates bytes and swaps the halves. -/
  | modeB
  deriving DecidableEq

namespace CipherMode

/-- Every mode. -/
def all : List CipherMode := [none, modeA, modeB]

/-- The name of a mode in configurations and on the command line. -/
def name : CipherMode → String
  | none => "none"
  | modeA => "mode-a"
  | modeB => "mode-b"

/-- The mode of a given name. -/
def ofName? (name : String) : Option CipherMode := all.find? fun mode => mode.name == name

end CipherMode

namespace Cipher

/-! ## Blocks -/

/-- Bytes in a block. -/
def blockSize : Nat := 32

/-- Bytes in half a block. -/
def halfSize : Nat := 16

/-- The byte that fills up the last block. -/
def padding : UInt8 := 0xFF

/-- The key of the first transform, used for either half. -/
def keyA : List UInt8 :=
  [0x3C, 0xA1, 0x5E, 0x07, 0x92, 0x4B, 0xD8, 0x61, 0x1F, 0xE4, 0x7A, 0x36, 0xC5, 0x08, 0xBB, 0x54]

/-- The key of the second transform, used for either half. -/
def keyB : List UInt8 :=
  [0x8D, 0x12, 0x6F, 0xF0, 0x25, 0x9A, 0x43, 0xCE, 0x71, 0x0C, 0xB7, 0x58, 0xE9, 0x34, 0x86, 0x2B]

/-- The tweak of a block: a multiple of its number's low byte, combined with the next byte. -/
def tweak (index : Nat) : UInt8 :=
  UInt8.ofNat index * 0x1D ^^^ UInt8.ofNat (index / 256)

/-- A byte turned left by three bits. -/
def rotateLeft (byte : UInt8) : UInt8 := byte <<< 3 ||| byte >>> 5

/-- A byte turned right by three bits. -/
def rotateRight (byte : UInt8) : UInt8 := byte >>> 3 ||| byte <<< 5

/-- Combines each byte with the key byte at its place and the tweak. -/
def combine (key : List UInt8) (t : UInt8) (half : List UInt8) : List UInt8 :=
  half.zipWith (fun byte k => byte ^^^ k ^^^ t) key

/-- Transforms one block. -/
def encipherBlock (mode : CipherMode) (index : Nat) (block : List UInt8) : List UInt8 :=
  let first := block.take halfSize
  let second := block.drop halfSize
  match mode with
  | .none => block
  | .modeA => combine keyA (tweak index) first.reverse ++ combine keyA (tweak index) second.reverse
  | .modeB =>
    combine keyB (tweak index) (second.reverse.map rotateLeft) ++
      combine keyB (tweak index) (first.reverse.map rotateLeft)

/-- Undoes the transform of one block. -/
def decipherBlock (mode : CipherMode) (index : Nat) (block : List UInt8) : List UInt8 :=
  let first := block.take halfSize
  let second := block.drop halfSize
  match mode with
  | .none => block
  | .modeA =>
    (combine keyA (tweak index) first).reverse ++ (combine keyA (tweak index) second).reverse
  | .modeB =>
    ((combine keyB (tweak index) second).map rotateRight).reverse ++
      ((combine keyB (tweak index) first).map rotateRight).reverse

/-! ## Payloads -/

/-- A transformed payload. -/
structure Enciphered where
  /-- The whole blocks. -/
  body : List UInt8
  /-- The last block, if the payload did not end with a whole one. -/
  tail : Option (List UInt8)
  deriving DecidableEq

namespace Enciphered

/-- Bytes that end up in the part, padding included. -/
def programmedLength (enciphered : Enciphered) : Nat :=
  enciphered.body.length + (enciphered.tail.elim 0 List.length)

/-- Body and tail as one run of bytes. -/
def image (enciphered : Enciphered) : List UInt8 :=
  enciphered.body ++ enciphered.tail.getD []

end Enciphered

/-- Bytes programmed for a payload of a given length. -/
def paddedLength (len : Nat) (mode : CipherMode) : Nat :=
  match mode with
  | .none => len
  | _ => (len + (blockSize - 1)) / blockSize * blockSize

/-- The blocks of a byte string, numbered from `index` on, each replaced by `change`; bytes after
the last whole block are handed to `rest`. -/
def mapBlocks (change : Nat → List UInt8 → List UInt8) (rest : Nat → List UInt8 → List UInt8)
    (index : Nat) (bytes : List UInt8) : List UInt8 :=
  let block := bytes.take blockSize
  if _whole : block.length = blockSize then
    change index block ++ mapBlocks change rest (index + 1) (bytes.drop blockSize)
  else rest index bytes
termination_by bytes.length
decreasing_by
  simp only [block, blockSize, List.length_take] at _whole
  simp only [List.length_drop, blockSize]
  omega

/-- Transforms a payload into whole blocks and, if bytes are left over, a padded last block.
Without a transform the body is the payload and there is no tail. -/
def encipher (payload : List UInt8) (mode : CipherMode) : Enciphered :=
  match mode with
  | .none => ⟨payload, none⟩
  | mode =>
    let blocks := payload.length / blockSize
    let rest := payload.drop (blocks * blockSize)
    { body := mapBlocks (encipherBlock mode) (fun _ _ => []) 0 payload
      tail :=
        if rest.isEmpty then none
        else some (encipherBlock mode blocks
          (rest ++ List.replicate (blockSize - rest.length) padding)) }

/-- Undoes the transform on an image; bytes after its last whole block stay as they are. -/
def decipher (image : List UInt8) (mode : CipherMode) : List UInt8 :=
  match mode with
  | .none => image
  | mode => mapBlocks (decipherBlock mode) (fun _ rest => rest) 0 image

end Cipher

end CardReader.Flash
