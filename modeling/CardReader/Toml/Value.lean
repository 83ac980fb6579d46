/-!
# Values of a configuration file

A configuration file in the TOML language denotes a table of values.  Floating point numbers and
dates are kept as they are written, because nothing is computed with them.
-/

namespace CardReader.Toml

/-- A value. -/
inductive Value where
  /-- A string. -/
  | string (text : String)
  /-- An integer of 64 bits. -/
  | integer (value : Int)
  /-- A floating point number, as it is written. -/
  | float (literal : String)
  /-- A truth value. -/
  | boolean (value : Bool)
  /-- A date, a time or both, as it is written. -/
  | datetime (literal : String)
  /-- An array. -/
  | array (items : List Value)
  /-- A table, in the order in which its keys first appear. -/
  | table (entries : List (String × Value))

/-- The entries of a table. -/
abbrev Table := List (String × Value)

end CardReader.Toml
