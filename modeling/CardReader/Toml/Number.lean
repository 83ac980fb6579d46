import CardReader.Toml.Value
import CardReader.Toml.Reader

/-!
# Numbers

Integers are decimal with an optional sign, or hexadecimal, octal or binary without one, and have
to fit 64 bits.  A floating point number has a fraction or an exponent, and must not be so large
that it would be infinite.  Single underscores may stand between digits.
-/

namespace CardReader.Toml.Reader

/-- Takes digits of a base, with single underscores between them. -/
def digits (base : Nat) : Reader (List Char) := do
  let first ← satisfy (isDigitOf base)
  let rest ← many do
    let _ ← optional (char '_')
    satisfy (isDigitOf base)
  return first :: rest

/-- Takes a sign; whether it is a minus. -/
def sign : Reader Bool := (char '-' *> pure true) <|> (char '+' *> pure false) <|> pure false

/-- Takes decimal digits without a zero in front, unless the zero is alone. -/
def decimalDigits : Reader (List Char) := do
  match ← next? with
  | some '0' =>
    char '0'
    return ['0']
  | _ => digits 10

/-! ## Integers -/

/-- The smallest integer. -/
def minInteger : Int := -0x8000000000000000

/-- The largest integer. -/
def maxInteger : Int := 0x7FFFFFFFFFFFFFFF

/-- A magnitude that no integer has. -/
def beyond : Nat := 0x10000000000000000

/-- Refuses an integer that does not fit 64 bits. -/
def bounded (value : Int) : Reader Value :=
  if minInteger ≤ value ∧ value ≤ maxInteger then return .integer value else failure

/-- An integer of a base with a mark in front. -/
def marked (mark : Char) (base : Nat) : Reader Value := do
  word ['0', mark]
  bounded (ofDigitsUpTo beyond base (← digits base))

/-- An integer. -/
def integer : Reader Value :=
  marked 'x' 16 <|> marked 'o' 8 <|> marked 'b' 2 <|> do
    let negative ← sign
    let magnitude : Int := ofDigitsUpTo beyond 10 (← decimalDigits)
    bounded (if negative then -magnitude else magnitude)

/-! ## Floating point numbers -/

/-- Takes a fraction. -/
def fraction : Reader (List Char) := char '.' *> digits 10

/-- The magnitude of an exponent.  Once it has reached a bound far beyond what a finite number
needs, further digits do not count. -/
def exponentMagnitude (digits : List Char) : Nat :=
  digits.foldl (fun value c => if value < 0x10000 then value * 10 + digitValue c else value) 0

/-- Takes an exponent. -/
def exponent : Reader Int := do
  char 'e' <|> char 'E'
  let negative ← sign
  let magnitude : Int := exponentMagnitude (← digits 10)
  return if negative then -magnitude else magnitude

/-- Half a unit above the largest finite number of 64 bits, where rounding gives infinity. -/
def infinityThreshold : Nat := Nat.pow 2 1024 - Nat.pow 2 970

/-- Digits in the threshold. -/
def thresholdDigits : Nat := 309

/-- Whether the number that digits denote, times ten to the power of `exponent`, is rounded to
infinity.  Only a number with as many digits before its point as the threshold has to be compared
with it, and for that the digits before the point are enough. -/
def overflows (digits : List Char) (exponent : Int) : Bool :=
  let digits := digits.dropWhile (· == '0')
  let places : Int := digits.length + exponent
  if digits.isEmpty ∨ places < thresholdDigits then false
  else if thresholdDigits < places then true
  else
    let whole := digits.take thresholdDigits
    let missing := List.replicate (thresholdDigits - whole.length) '0'
    infinityThreshold ≤ ofDigits 10 (whole ++ missing)

/-- A floating point number in digits. -/
def decimal : Reader Unit := do
  let negative ← sign
  let whole ← decimalDigits
  let fraction ← optional fraction
  let exponent ← optional exponent
  if fraction.isNone ∧ exponent.isNone then failure
  let fraction := fraction.getD []
  if !negative && overflows (whole ++ fraction) (exponent.getD 0 - fraction.length) then failure

/-- Infinity or no number at all, with a sign. -/
def special : Reader Unit := do
  let _ ← sign
  word ['i', 'n', 'f'] <|> word ['n', 'a', 'n']

/-- A floating point number. -/
def float : Reader Value := .float <$> taken (decimal <|> special)

end CardReader.Toml.Reader
