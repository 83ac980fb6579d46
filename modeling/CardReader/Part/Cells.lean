/-!
# The flash array

The cells of a part, one byte each.  An erased cell reads as all ones; programming can only clear
bits, and erasing sets whole runs of cells back.
-/

namespace CardReader.Part

/-- What an erased cell reads as. -/
def erasedByte : UInt8 := 0xFF

/-- The array of a part. -/
structure Cells where
  /-- The cells in the order of their addresses. -/
  bytes : ByteArray

namespace Cells

/-- Bytes in the array. -/
def size (cells : Cells) : Nat := cells.bytes.size

/-- The byte in a cell; there is nothing but erased cells past the end. -/
def cell (cells : Cells) (i : Nat) : UInt8 :=
  if h : i < cells.bytes.size then cells.bytes[i] else erasedByte

/-! ## Whole arrays -/

/-- Appends a run a number of times. -/
def repeated : Nat → ByteArray → ByteArray → ByteArray
  | 0, _, bytes => bytes
  | times + 1, run, bytes => repeated times run (bytes ++ run)

/-- A run of erased bytes, put together from larger runs. -/
def erasedRun (len : Nat) : ByteArray :=
  let run : Nat → ByteArray := fun len => ⟨Array.replicate len erasedByte⟩
  repeated (len / 4096) (run 4096) .empty ++ run (len % 4096)

/-- An erased array. -/
def erased (size : Nat) : Cells := ⟨erasedRun size⟩

/-- An array of a given size that holds an image from its start on and is erased after it. -/
def holding (size : Nat) (image : ByteArray) : Cells :=
  if image.size ≤ size then ⟨image ++ erasedRun (size - image.size)⟩ else ⟨image.extract 0 size⟩

/-! ## Changes -/

/-- Puts a byte into a cell. -/
def put (cells : Cells) (i : Nat) (byte : UInt8) : Cells := ⟨cells.bytes.set! i byte⟩

/-- Clears the bits of a cell that are clear in `byte`. -/
def clearBits (cells : Cells) (i : Nat) (byte : UInt8) : Cells :=
  let old := cells.cell i
  cells.put i (old &&& byte)

/-- Erases `count` cells from `start` on. -/
def erase (cells : Cells) (start : Nat) : (count : Nat) → Cells
  | 0 => cells
  | count + 1 => (cells.put start erasedByte).erase (start + 1) count

/-- Puts bytes into the cells from `start` on. -/
def overwrite (cells : Cells) (start : Nat) : List UInt8 → Cells
  | [] => cells
  | byte :: rest => (cells.put start byte).overwrite (start + 1) rest

/-- The bytes of `count` cells from `start` on, going round to the first cell after the last. -/
def slice (cells : Cells) (start count : Nat) : List UInt8 :=
  (List.range count).map fun i => cells.cell ((start + i) % cells.size)

end Cells

end CardReader.Part
