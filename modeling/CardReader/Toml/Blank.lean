import CardReader.Toml.Reader

/-!
# Space, line ends and comments

Spaces and tabs separate the parts of a line; a line ends at a line feed, before which a carriage
return may stand, or with the text.  A comment reaches to the end of its line and holds no control
character but the tab.
-/

namespace CardReader.Toml

/-- A space or a tab. -/
def isSpace (c : Char) : Bool := c == ' ' || c == '\t'

/-- A character that may stand in a comment or, where it is not a delimiter, in a string. -/
def isPlain (c : Char) : Bool := c == '\t' || (32 ≤ c.toNat && c.toNat != 127)

namespace Reader

/-- Skips spaces and tabs. -/
def spaces : Reader Unit := do
  let _ ← span isSpace

/-- Takes a line end. -/
def newline : Reader Unit := char '\n' <|> word ['\r', '\n']

/-- Takes a comment, without its line end. -/
def comment : Reader Unit := do
  char '#'
  let _ ← span isPlain

/-- Skips what may follow on a line, and its end. -/
def lineEnd : Reader Unit := do
  spaces
  let _ ← optional comment
  newline <|> finish

/-- Skips spaces, line ends and comments. -/
def blanks : Reader Unit := do
  let _ ← many ((do let _ ← span1 isSpace) <|> newline <|> comment)

end Reader

end CardReader.Toml
