/-!
# White space

The characters with the Unicode property White_Space, and the text between the white space at
both ends.
-/

namespace CardReader.Blank

/-- Whether a character has the Unicode property White_Space. -/
def isBlank (c : Char) : Bool :=
  let code := c.toNat
  (9 ≤ code && code ≤ 13) || code == 0x20 || code == 0x85 || code == 0xA0 || code == 0x1680 ||
    (0x2000 ≤ code && code ≤ 0x200A) || code == 0x2028 || code == 0x2029 || code == 0x202F ||
    code == 0x205F || code == 0x3000

/-- Drops the white space at the start. -/
def trimStart (text : List Char) : List Char := text.dropWhile isBlank

/-- Drops the white space at the end. -/
def trimEnd (text : List Char) : List Char := (trimStart text.reverse).reverse

/-- Drops the white space at both ends. -/
def trim (text : List Char) : List Char := trimEnd (trimStart text)

end CardReader.Blank
