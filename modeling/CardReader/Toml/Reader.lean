/-!
# Readers

A reader takes a piece off the front of a text, or refuses the text.  The ones here are the
building blocks of the grammar.  Choice goes by order: `r <|> s` reads as `s` from the same place
only where `r` refuses.  The text still to be read carries its length along, so that progress can
be seen without counting.
-/

namespace CardReader.Toml

/-- A text that is still to be read. -/
structure Input where
  /-- The characters. -/
  chars : List Char
  /-- How many they are. -/
  size : Nat
  /-- The length is that of the characters. -/
  size_eq : size = chars.length

namespace Input

/-- A whole text. -/
def ofString (text : String) : Input := ⟨text.toList, text.toList.length, rfl⟩

/-- The text after its first `count` characters. -/
def drop (input : Input) (count : Nat) : Input :=
  ⟨input.chars.drop count, input.size - count, by rw [input.size_eq, List.length_drop]⟩

end Input

/-- A reader of values of type `α`. -/
abbrev Reader := StateT Input Option

namespace Reader

/-- Takes one character with a property. -/
def satisfy (property : Char → Bool) : Reader Char := fun input =>
  match input.chars with
  | c :: _ => if property c then some (c, input.drop 1) else none
  | [] => none

/-- Takes one given character. -/
def char (c : Char) : Reader Unit := do
  let _ ← satisfy (· == c)

/-- Takes given characters. -/
def word : List Char → Reader Unit
  | [] => pure ()
  | c :: rest => do
    char c
    word rest

/-- Takes as many characters with a property as there are. -/
def span (property : Char → Bool) : Reader (List Char) := fun input =>
  let taken := input.chars.takeWhile property
  some (taken, input.drop taken.length)

/-- Takes characters with a property, at least one. -/
def span1 (property : Char → Bool) : Reader (List Char) := do
  let first ← satisfy property
  let rest ← span property
  return first :: rest

/-- The next character, which stays. -/
def next? : Reader (Option Char) := fun input => some (input.chars.head?, input)

/-- The end of the text. -/
def finish : Reader Unit := fun input => if input.size = 0 then some ((), input) else none

/-- Takes as many pieces as there are, onto the pieces already taken, which stand in reverse order.
Every piece has to take something. -/
def manyOnto {α : Type} (piece : Reader α) (done : List α) (input : Input) :
    Option (List α × Input) :=
  match piece input with
  | none => some (done.reverse, input)
  | some (value, rest) =>
    if _shorter : rest.size < input.size then manyOnto piece (value :: done) rest else none
termination_by input.size

/-- Takes as many pieces as there are; every piece has to take something. -/
def many {α : Type} (piece : Reader α) : Reader (List α) := manyOnto piece []

/-- What a reader takes, as text. -/
def taken {α : Type} (reader : Reader α) : Reader String := fun input =>
  match reader input with
  | some (_, rest) => some (String.ofList (input.chars.take (input.size - rest.size)), rest)
  | none => none

/-- A digit of a given base. -/
def isDigitOf (base : Nat) (c : Char) : Bool :=
  (c.isDigit || c.isAlpha) && decide ((if c.isDigit then c.toNat - 48
    else c.toUpper.toNat - 55) < base)

/-- The value of a digit. -/
def digitValue (c : Char) : Nat := if c.isDigit then c.toNat - 48 else c.toUpper.toNat - 55

/-- The number that digits of a base denote. -/
def ofDigits (base : Nat) (digits : List Char) : Nat :=
  digits.foldl (fun value c => value * base + digitValue c) 0

/-- The number that digits of a base denote, or `limit` if it is larger. -/
def ofDigitsUpTo (limit base : Nat) (digits : List Char) : Nat :=
  digits.foldl (fun value c => min limit (value * base + digitValue c)) 0

end Reader

end CardReader.Toml
