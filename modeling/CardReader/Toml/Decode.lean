import CardReader.Toml.Value

/-!
# Typed views of values

What a value is when a certain type is expected of it.  A choice among names may be given as a
table with the name as its only key and nothing behind it; a record may be given as the list of
its fields, and a date is a record that has none of the fields.
-/

namespace CardReader.Toml

namespace Value

/-- A natural number up to a bound. -/
def natural? (bound : Nat) : Value → Option Nat
  | .integer value => if 0 ≤ value ∧ value ≤ bound then some value.toNat else none
  | _ => none

/-- A truth value. -/
def boolean? : Value → Option Bool
  | .boolean value => some value
  | _ => none

/-- A string. -/
def string? : Value → Option String
  | .string text => some text
  | _ => none

/-- A choice among names. -/
def choice? {α : Type} (ofName? : String → Option α) : Value → Option α
  | .string name => ofName? name
  | .table [(name, .table [])] => ofName? name
  | .table [(name, .array [])] => ofName? name
  | _ => none

/-- A record with given fields. -/
def record? (fields : List String) : Value → Option Table
  | .table entries => some entries
  | .array items => some (fields.zip items)
  | .datetime _ => some []
  | _ => none

end Value

/-- The field of a record, or `default` if there is no such field. -/
def field? {α : Type} (record : Table) (name : String) (view? : Value → Option α) (default : α) :
    Option α :=
  match record.lookup name with
  | none => some default
  | some value => view? value

end CardReader.Toml
