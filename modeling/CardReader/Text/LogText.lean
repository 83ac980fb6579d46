/-!
# Values in a line of a log

How a value is shown to someone who reads a log: a record as its name with its fields in braces, a
tagged value as its tag with its contents in parentheses, and a list in brackets.
-/

namespace CardReader.LogText

/-- Parts separated by commas. -/
def commas (parts : List String) : String := ", ".intercalate parts

/-- A record with named fields. -/
def record (name : String) (fields : List (String × String)) : String :=
  let shown := fields.map fun (field, value) => field ++ ": " ++ value
  name ++ " \x7b " ++ commas shown ++ " \x7d"

/-- A tagged value. -/
def tagged (tag : String) (contents : String) : String := tag ++ "(" ++ contents ++ ")"

/-- A list of bytes. -/
def bytes (values : List UInt8) : String :=
  "[" ++ commas (values.map fun value => toString value.toNat) ++ "]"

/-- A value that may be missing. -/
def optional (shown : Option String) : String :=
  match shown with
  | some text => tagged "Some" text
  | none => "None"

/-- A truth value. -/
def truth (value : Bool) : String := if value then "true" else "false"

end CardReader.LogText
