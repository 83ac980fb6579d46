import CardReader.Toml.Datetime
import CardReader.Toml.Number
import CardReader.Toml.Text
import CardReader.Toml.Tree

/-!
# Configuration files

A file is a sequence of lines, each with a header, an assignment or nothing.  `parse?` reads the
lines and builds the table that they denote.  Values nest less than 80 levels deep, and a dotted
key has fewer than 80 segments.
-/

namespace CardReader.Toml

namespace Reader

/-- The number of levels at which nesting is refused. -/
def nestingLimit : Nat := 80

/-! ## Keys -/

/-- A character of a bare key. -/
def isBare (c : Char) : Bool := c.isAlphanum || c == '-' || c == '_'

/-- A segment of a key, with the space around it. -/
def segment : Reader String := do
  spaces
  let name ← quoted <|> literal <|> span1 isBare
  spaces
  return String.ofList name

/-- A dotted key. -/
def key : Reader Key := do
  let first ← segment
  let rest ← many (char '.' *> segment)
  if nestingLimit ≤ rest.length + 1 then failure else return .ofSegments first rest

/-! ## Values -/

/-- A truth value. -/
def boolean : Reader Value :=
  (word ['t', 'r', 'u', 'e'] *> pure (.boolean true)) <|>
    (word ['f', 'a', 'l', 's', 'e'] *> pure (.boolean false))

/-- A value that holds no others. -/
def simpleValue : Reader Value :=
  (.string <$> text) <|> datetime <|> float <|> integer <|> boolean

/-- The items of an array, separated by commas; one more comma may follow the last. -/
def items (item : Reader Value) : Reader (List Value) := do
  let entry : Reader Value := blanks *> item <* blanks
  match ← optional entry with
  | none => return []
  | some first =>
    let rest ← many (char ',' *> entry)
    let _ ← optional (char ',')
    return first :: rest

/-- An array. -/
def array (item : Reader Value) : Reader Value := do
  char '['
  let items ← items item
  blanks
  char ']'
  return .array items

/-- A key and its value. -/
def pair (value : Reader Value) : Reader (Key × Value) := do
  let key ← key
  char '='
  spaces
  return (key, ← value)

/-- The pairs of an inline table, separated by commas. -/
def pairs (value : Reader Value) : Reader (List (Key × Value)) := do
  let entry : Reader (Key × Value) := pair value <* spaces
  match ← optional entry with
  | none => return []
  | some first => return first :: (← many (char ',' *> entry))

/-- An inline table. -/
def inlineTable (value : Reader Value) : Reader Value := do
  char '\x7b'
  let pairs ← pairs value
  spaces
  char '\x7d'
  match tableOf? pairs with
  | some table => return .table table
  | none => failure

/-- A value with at most `depth` levels of arrays and inline tables. -/
def value : (depth : Nat) → Reader Value
  | 0 => simpleValue
  | depth + 1 => simpleValue <|> array (value depth) <|> inlineTable (value depth)

end Reader

/-! ## Lines -/

/-- What a line says. -/
inductive Statement where
  /-- The table of a header starts. -/
  | table (key : Key)
  /-- The next element of an array of tables starts. -/
  | element (key : Key)
  /-- A name of the current table has a value. -/
  | assign (key : Key) (value : Value)

namespace Reader

/-- A header. -/
def header : Reader Statement :=
  (.element <$> (word ['[', '['] *> key <* word [']', ']'])) <|>
    (.table <$> (char '[' *> key <* char ']'))

/-- A header or an assignment. -/
def statement : Reader Statement :=
  header <|> (fun (key, value) => .assign key value) <$> pair (value (nestingLimit - 1))

/-- A line. -/
def line : Reader (Option Statement) := do
  spaces
  let statement ← optional statement
  lineEnd
  return statement

/-- The statements of a whole text. -/
def document : Reader (List Statement) := do
  let _ ← optional (char '\ufeff')
  let statements ← many do
    if (← next?).isNone then failure else line
  finish
  return statements.filterMap id

end Reader

/-! ## The table of a file -/

/-- A file as far as its statements have been carried out. -/
structure Draft where
  /-- The table of the file. -/
  root : Entries := []
  /-- Where the current table is. -/
  current : List String := []

/-- Carries out a statement. -/
def Draft.next (draft : Draft) : Statement → Option Draft
  | .table key => do
    let root ← draft.root.openTable key
    return { root, current := key.segments }
  | .element key => do
    let root ← draft.root.openElement key
    return { root, current := key.segments }
  | .assign key value => do
    let root ← Entries.change .parent draft.current (Entries.assign key value) .header
      draft.root
    return { draft with root }

/-- The table that a text denotes, if it is well formed. -/
def parse? (text : String) : Option Table := do
  let (statements, _) ← Reader.document (.ofString text)
  let draft ← statements.foldlM Draft.next {}
  return finishEntries draft.root

end CardReader.Toml
