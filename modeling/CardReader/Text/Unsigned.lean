/-!
# Unsigned numerals

Reading a bounded natural number in a given base.  A single plus sign may stand in front; at
least one digit must follow; the digits are taken from the left and the first fault ends the
reading, so a number that is already too large is reported before a bad digit further right.
-/

namespace CardReader.Unsigned

/-- Why a text is not an unsigned numeral below the bound. -/
inductive Fault where
  /-- There is no text at all. -/
  | empty
  /-- A character is not a digit of the base. -/
  | badDigit
  /-- The number exceeds the bound. -/
  | tooLarge
  deriving DecidableEq

/-- The wording of a fault. -/
def Fault.message : Fault → String
  | .empty => "cannot parse integer from empty string"
  | .badDigit => "invalid digit found in string"
  | .tooLarge => "number too large to fit in target type"

/-- The value of a character as a digit of `base`, letters in either case after the nine. -/
def digit? (base : Nat) (c : Char) : Option Nat :=
  let code := c.toNat
  let value? :=
    if 48 ≤ code ∧ code ≤ 57 then some (code - 48)
    else if 65 ≤ code ∧ code ≤ 90 then some (code - 55)
    else if 97 ≤ code ∧ code ≤ 122 then some (code - 87)
    else none
  value?.filter (· < base)

/-- Reads digits onto the number read so far, which must stay at most `bound`. -/
def digits (base bound : Nat) : List Char → Nat → Except Fault Nat
  | [], value => .ok value
  | c :: rest, value =>
    match digit? base c with
    | none => .error .badDigit
    | some d =>
      let next := value * base + d
      if bound < next then .error .tooLarge else digits base bound rest next

/-- Reads a numeral of the given base with a value of at most `bound`. -/
def parse (base bound : Nat) (text : List Char) : Except Fault Nat :=
  match text with
  | [] => .error .empty
  | ['+'] => .error .badDigit
  | '+' :: rest => digits base bound rest 0
  | _ => digits base bound text 0

/-- The largest number of a given number of bits. -/
def greatest (bits : Nat) : Nat := Nat.pow 2 bits - 1

/-- The largest number of 32 bits. -/
def max32 : Nat := greatest 32

end CardReader.Unsigned
