import CardReader.Text.Hex
import CardReader.Text.Unshown

/-!
# Quoted text

A text in quotes, in which every character that cannot be shown by itself is written as an escape.
-/

namespace CardReader.Quoted

/-- A character given by its code point, in lower case digits. -/
def codePoint (c : Char) : List Char :=
  ['\\', 'u', '\x7b'] ++ (Hex.number c.toNat).toList.map Char.toLower ++ ['\x7d']

/-- A character as it is written in quotes. -/
def escape (c : Char) : List Char :=
  if c = '\x00' then ['\\', '0']
  else if c = '\t' then ['\\', 't']
  else if c = '\n' then ['\\', 'n']
  else if c = '\r' then ['\\', 'r']
  else if c = '"' ∨ c = '\\' then ['\\', c]
  else if Unshown.isUnshown c then codePoint c
  else [c]

/-- A text in quotes. -/
def quote (text : String) : String :=
  String.ofList (['"'] ++ text.toList.flatMap escape ++ ['"'])

end CardReader.Quoted
