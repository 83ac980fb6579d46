import CardReader.Text.Blank
import CardReader.Text.Unsigned

/-!
# Numbers and sizes

The two kinds of quantity that a configuration may give as text: a number, decimal or hexadecimal
after `0x`, and a size, which is a number or a decimal number of kibibytes or mebibytes.  Both are
numbers of 32 bits, and white space around them does not count.
-/

namespace CardReader.Quantity

/-- Why a text is not a number. -/
inductive NumberFault where
  /-- The part after `0x` is no hexadecimal numeral. -/
  | hexadecimal (fault : Unsigned.Fault)
  /-- The text is no decimal numeral. -/
  | decimal (fault : Unsigned.Fault)
  deriving DecidableEq

/-- The wording of a fault. -/
def NumberFault.message : NumberFault → String
  | .hexadecimal fault => "invalid hex: " ++ fault.message
  | .decimal fault => "invalid number: " ++ fault.message

/-- Reads a number without white space around it. -/
def bareNumber (text : List Char) : Except NumberFault Nat :=
  match text with
  | '0' :: 'x' :: rest => (Unsigned.parse 16 Unsigned.max32 rest).mapError .hexadecimal
  | '0' :: 'X' :: rest => (Unsigned.parse 16 Unsigned.max32 rest).mapError .hexadecimal
  | _ => (Unsigned.parse 10 Unsigned.max32 text).mapError .decimal

/-- Reads a number, decimal or hexadecimal after `0x`. -/
def parseNumber (text : String) : Except NumberFault Nat :=
  bareNumber (Blank.trim text.toList)

/-! ## Sizes -/

/-- Why a text is not a size; both faults quote it without the white space around it. -/
inductive SizeFault where
  /-- The text is neither a number nor a number with a unit. -/
  | malformed (text : String)
  /-- The number of bytes does not fit 32 bits. -/
  | tooLarge (text : String)
  deriving DecidableEq

/-- The wording of a fault. -/
def SizeFault.message : SizeFault → String
  | .malformed text => "invalid size: " ++ text
  | .tooLarge text => "size too large: " ++ text

/-- The lower case form of a letter that may occur in a unit.  Besides the ASCII letters this is
the sign for the kelvin, whose lower case form is the letter k. -/
def lower (c : Char) : Char :=
  if c = '\u212a' then 'k' else c.toLower

/-- What precedes `ending`, if the text ends with it. -/
def before? (ending text : List Char) : Option (List Char) :=
  if ending.length ≤ text.length ∧ text.drop (text.length - ending.length) = ending then
    some (text.take (text.length - ending.length))
  else none

/-- Splits a lower case text into a count and its unit in bytes. -/
def splitUnit? (text : List Char) : Option (List Char × Nat) :=
  match before? ['m', 'i', 'b'] text with
  | some count => some (count, 1024 * 1024)
  | none =>
  match before? ['m'] text with
  | some count => some (count, 1024 * 1024)
  | none =>
  match before? ['k', 'i', 'b'] text with
  | some count => some (count, 1024)
  | none =>
  match before? ['k'] text with
  | some count => some (count, 1024)
  | none => none

/-- Reads a size: a number of bytes, or a decimal count of `K`, `KiB`, `M` or `MiB` in either
case. -/
def parseSize (text : String) : Except SizeFault Nat :=
  let trimmed := Blank.trim text.toList
  match bareNumber trimmed with
  | .ok bytes => .ok bytes
  | .error _ =>
    match splitUnit? (trimmed.map lower) with
    | none => .error (.malformed (String.ofList trimmed))
    | some (count, unit) =>
      match Unsigned.parse 10 Unsigned.max32 (Blank.trim count) with
      | .error _ => .error (.malformed (String.ofList trimmed))
      | .ok units =>
        if Unsigned.max32 < units * unit then .error (.tooLarge (String.ofList trimmed))
        else .ok (units * unit)

end CardReader.Quantity
