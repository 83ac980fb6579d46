/-!
# Hexadecimal text

Numbers written with hexadecimal digits and a least width, byte strings written two digits a
byte, and the reader that turns such text back into bytes.  Reading skips ASCII white space, cuts
the remaining bytes into pairs and reads each pair as one number, which may carry a plus sign in
place of its first digit.
-/

namespace CardReader.Hex

/-! ## Writing -/

/-- The digit for a value below sixteen, with upper case letters. -/
def upperDigit (value : Nat) : Char :=
  if value < 10 then Char.ofNat (48 + value) else Char.ofNat (55 + value)

/-- The digit for a value below sixteen, with lower case letters. -/
def lowerDigit (value : Nat) : Char :=
  if value < 10 then Char.ofNat (48 + value) else Char.ofNat (87 + value)

/-- The digits of a number, most significant first, with none for zero. -/
def digits (value : Nat) : List Char :=
  if value = 0 then [] else digits (value / 16) ++ [upperDigit (value % 16)]
termination_by value

/-- A number in upper case digits, filled with zeros to at least `width` digits. -/
def padded (width value : Nat) : String :=
  let written := digits value
  String.ofList (List.replicate (width - written.length) '0' ++ written)

/-- A number in upper case digits, without leading zeros. -/
def number (value : Nat) : String := padded 1 value

/-- A byte string in upper case, two digits a byte. -/
def ofBytes (bytes : List UInt8) : String :=
  String.ofList <| bytes.flatMap fun byte =>
    [upperDigit (byte.toNat / 16), upperDigit (byte.toNat % 16)]

/-- A byte string in lower case, two digits a byte. -/
def ofBytesLower (bytes : List UInt8) : String :=
  String.ofList <| bytes.flatMap fun byte =>
    [lowerDigit (byte.toNat / 16), lowerDigit (byte.toNat % 16)]

/-! ## Reading -/

/-- The value of a hexadecimal digit in either case, given by its byte. -/
def digitValue? (byte : UInt8) : Option Nat :=
  let code := byte.toNat
  if 48 ≤ code ∧ code ≤ 57 then some (code - 48)
  else if 65 ≤ code ∧ code ≤ 70 then some (code - 55)
  else if 97 ≤ code ∧ code ≤ 102 then some (code - 87)
  else none

/-- Space, tab, line feed, form feed and carriage return. -/
def isBlank (byte : UInt8) : Bool :=
  byte == 32 || byte == 9 || byte == 10 || byte == 12 || byte == 13

/-- The number that two bytes of text denote: two digits, or a plus sign and one digit. -/
def pairValue? (high low : UInt8) : Option UInt8 :=
  match digitValue? low with
  | none => none
  | some units =>
    if high = 43 then some (UInt8.ofNat units)
    else (digitValue? high).map fun sixteens => UInt8.ofNat (16 * sixteens + units)

/-- Reads consecutive pairs, of which there must be a whole number, onto the bytes already read,
which stand in reverse order. -/
def pairsOnto? (done : List UInt8) : List UInt8 → Option (List UInt8)
  | [] => some done.reverse
  | [_] => none
  | high :: low :: rest =>
    match pairValue? high low with
    | some byte => pairsOnto? (byte :: done) rest
    | none => none

/-- Reads consecutive pairs, of which there must be a whole number. -/
def pairs? : List UInt8 → Option (List UInt8) := pairsOnto? []

/-- Why a text is not the hexadecimal form of a byte string. -/
inductive Refusal where
  /-- The text has an odd number of bytes besides white space. -/
  | oddLength (text : String)
  /-- Some pair does not denote a byte. -/
  | badPair (text : String)
  deriving DecidableEq

/-- The wording of a refusal, which quotes the text as it was given. -/
def Refusal.message : Refusal → String
  | .oddLength text => "odd number of hex digits: " ++ text
  | .badPair text => "invalid hex: " ++ text

/-- The bytes of a text that are not white space. -/
def significant (text : String) : List UInt8 :=
  text.toUTF8.data.toList.filter fun byte => !isBlank byte

/-- Reads a byte string from hexadecimal text. -/
def parse (text : String) : Except Refusal (List UInt8) :=
  let bytes := significant text
  if bytes.length % 2 ≠ 0 then .error (.oddLength text)
  else match pairs? bytes with
    | some value => .ok value
    | none => .error (.badPair text)

end CardReader.Hex
