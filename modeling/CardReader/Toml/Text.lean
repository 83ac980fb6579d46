import CardReader.Toml.Blank

/-!
# Strings

There are four kinds of strings: in quotes, where a backslash escapes, or in apostrophes, where
everything stands for itself; and each on one line or, in tripled delimiters, over several.
-/

namespace CardReader.Toml.Reader

/-- The character of a given code, if there is one. -/
def scalar? (code : Nat) : Option Char :=
  if code.isValidChar then some (Char.ofNat code) else none

/-- Takes exactly `count` hexadecimal digits and gives the character with that code. -/
def codePoint (count : Nat) : Reader Char := fun input =>
  let digits := input.chars.take count
  if digits.length = count ∧ digits.all (isDigitOf 16) then
    (scalar? (ofDigits 16 digits)).map fun c => (c, input.drop count)
  else none

/-- Takes an escape and gives the character that it stands for. -/
def escape : Reader Char := do
  char '\\'
  let kind ← satisfy fun _ => true
  match kind with
  | 'b' => return '\x08'
  | 't' => return '\t'
  | 'n' => return '\n'
  | 'f' => return '\x0c'
  | 'r' => return '\r'
  | '"' => return '"'
  | '\\' => return '\\'
  | 'u' => codePoint 4
  | 'U' => codePoint 8
  | _ => failure

/-! ## One line -/

/-- A character that stands for itself in quotes. -/
def isQuotable (c : Char) : Bool := isPlain c && c != '"' && c != '\\'

/-- A character that stands for itself in apostrophes. -/
def isLiteral (c : Char) : Bool := isPlain c && c != '\''

/-- A string in quotes. -/
def quoted : Reader (List Char) := do
  char '"'
  let content ← many (satisfy isQuotable <|> escape)
  char '"'
  return content

/-- A string in apostrophes. -/
def literal : Reader (List Char) := do
  char '\''
  let content ← span isLiteral
  char '\''
  return content

/-! ## Several lines -/

/-- One or two delimiters that do not end the string, because another character follows. -/
def looseDelimiters (delimiter : Char) : Reader (List Char) := do
  char delimiter
  let second ← optional (char delimiter)
  match ← next? with
  | none => failure
  | some c =>
    if c == delimiter then failure
    else return List.replicate (if second.isSome then 2 else 1) delimiter

/-- The three delimiters that end the string, with at most two more before them. -/
def closingDelimiters (delimiter : Char) : Reader (List Char) := do
  let delimiters ← span (· == delimiter)
  if 3 ≤ delimiters.length ∧ delimiters.length ≤ 5 then return delimiters.drop 3 else failure

/-- A line end in a string, which is read as a line feed. -/
def lineFeed : Reader (List Char) := do
  newline
  return ['\n']

/-- A backslash at the end of a line, which takes all space up to the next character with it. -/
def continuation : Reader (List Char) := do
  char '\\'
  spaces
  newline
  let _ ← many ((do let _ ← span1 isSpace) <|> newline)
  return []

/-- A string over several lines, made of pieces; a line end right after its start is skipped. -/
def multiline (delimiter : Char) (piece : Reader (List Char)) : Reader (List Char) := do
  word [delimiter, delimiter, delimiter]
  let _ ← optional newline
  let pieces ← many (piece <|> lineFeed <|> looseDelimiters delimiter)
  let closing ← closingDelimiters delimiter
  return pieces.flatten ++ closing

/-- A string in tripled quotes. -/
def multilineQuoted : Reader (List Char) :=
  multiline '"' (span1 isQuotable <|> continuation <|> List.singleton <$> escape)

/-- A string in tripled apostrophes. -/
def multilineLiteral : Reader (List Char) := multiline '\'' (span1 isLiteral)

/-- A string of any kind. -/
def text : Reader String :=
  String.ofList <$> (multilineQuoted <|> quoted <|> multilineLiteral <|> literal)

end CardReader.Toml.Reader
