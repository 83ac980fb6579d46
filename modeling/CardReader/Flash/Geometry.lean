import CardReader.Flash.Error

/-!
# Geometry of the address space

The sizes of the 24-bit flash address space and of the units in which it is programmed and
erased, and the checks that an address or a range lies inside it.
-/

namespace CardReader.Flash

/-- Bytes in the 24-bit address space. -/
def addressSpace : Nat := 0x1000000

/-- Bytes in a page, the largest unit that one command can program. -/
def pageSize : Nat := 0x100

/-- Bytes in a sector, the smallest unit that can be erased. -/
def sectorSize : Nat := 4 * 1024

/-- Bytes in a small erase block. -/
def block32Size : Nat := 32 * 1024

/-- Bytes in a large erase block. -/
def block64Size : Nat := 64 * 1024

/-- The address as a command carries it, cut to 24 bits. -/
def maskAddress (addr : Nat) : Nat := addr % addressSpace

/-- Accepts an address inside the address space. -/
def checkAddress (addr : Nat) : Except Failure Unit :=
  if addr < addressSpace then .ok () else .error .addressOutOfBounds

/-- Accepts a range that starts and ends inside the address space.  An empty range still has to
start inside it. -/
def checkRange (addr len : Nat) : Except Failure Unit :=
  if addr < addressSpace ∧ addr + len ≤ addressSpace then .ok () else .error .addressOutOfBounds

theorem checkRange_eq_ok_iff {addr len : Nat} :
    checkRange addr len = .ok () ↔ addr < addressSpace ∧ addr + len ≤ addressSpace := by
  unfold checkRange
  split <;> simp_all

end CardReader.Flash
