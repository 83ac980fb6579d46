import CardReader.Toml.Value

/-!
# Tables under construction

The statements of a file build up a tree of tables.  A table may come into being by its own
header, as the parent of another table, or by a dotted key, and what may still be done to it
depends on that: a header may stand only once and only for a table that so far is nothing but a
parent, and a dotted key reaches only tables that no header has defined.
-/

namespace CardReader.Toml

/-- A dotted key: the tables on the way and the name in the last of them. -/
structure Key where
  /-- The tables on the way. -/
  parents : List String
  /-- The name. -/
  name : String
  deriving DecidableEq

namespace Key

/-- The key with given segments, the first of which is given apart. -/
def ofSegments (first : String) : List String → Key
  | [] => ⟨[], first⟩
  | second :: rest =>
    let key := ofSegments second rest
    ⟨first :: key.parents, key.name⟩

/-- The segments of a key. -/
def segments (key : Key) : List String := key.parents ++ [key.name]

end Key

/-- How a table came into being. -/
inductive Origin where
  /-- By its own header, or as the root. -/
  | header
  /-- As the parent of another table. -/
  | parent
  /-- By a dotted key. -/
  | dottedKey
  deriving DecidableEq

/-- A node of the tree. -/
inductive Node where
  /-- A finished value. -/
  | value (value : Value)
  /-- A table. -/
  | table (origin : Origin) (entries : List (String × Node))
  /-- The tables of an array that is built by headers. -/
  | tables (elements : List (List (String × Node)))

/-- What stands in a table under construction. -/
abbrev Entries := List (String × Node)

namespace Entries

/-- Puts a node in the place of the one with the same name, or at the end. -/
def put (name : String) (node : Node) : Entries → Entries
  | [] => [(name, node)]
  | (other, old) :: rest =>
    if other = name then (name, node) :: rest else (other, old) :: put name node rest

/-- Changes the table that a path leads to.  Missing tables on the way come into being with
`origin`; arrays of tables lead to their last element. -/
def change (origin : Origin) (path : List String) (act : Origin → Entries → Option Entries)
    (here : Origin) (entries : Entries) : Option Entries :=
  match path with
  | [] => act here entries
  | name :: rest =>
    match entries.lookup name with
    | none => do
      let inner ← change origin rest act origin []
      return put name (.table origin inner) entries
    | some (.value _) => none
    | some (.table there inner) =>
      if origin = .dottedKey ∧ there = .header then none
      else do
        let inner ← change origin rest act there inner
        return put name (.table there inner) entries
    | some (.tables elements) => do
      let last ← elements.getLast?
      let last ← change origin rest act .header last
      return put name (.tables (elements.dropLast ++ [last])) entries

/-- Gives a name a value.  The name has to be new, and a dotted key has to lead to a table that
dotted keys brought into being. -/
def assign (key : Key) (value : Value) : Origin → Entries → Option Entries :=
  change .dottedKey key.parents fun here entries =>
    if (here = .dottedKey) ↔ key.parents = [] then none
    else if (entries.lookup key.name).isSome then none
    else some (put key.name (.value value) entries)

/-- Starts the table of a header. -/
def openTable (key : Key) : Entries → Option Entries :=
  change .parent key.parents (fun _ entries =>
    match entries.lookup key.name with
    | none => some (put key.name (.table .header []) entries)
    | some (.table .parent inner) => some (put key.name (.table .header inner) entries)
    | some _ => none) .header

/-- Starts the next element of an array of tables. -/
def openElement (key : Key) : Entries → Option Entries :=
  change .parent key.parents (fun _ entries =>
    match entries.lookup key.name with
    | none => some (put key.name (.tables [[]]) entries)
    | some (.tables elements) => some (put key.name (.tables (elements ++ [[]])) entries)
    | some _ => none) .header

end Entries

/-! ## The finished table -/

mutual

/-- The value of a node. -/
def Node.finish : Node → Value
  | .value value => value
  | .table _ entries => .table (finishEntries entries)
  | .tables elements => .array (finishElements elements)

/-- The values of the entries of a table. -/
def finishEntries : List (String × Node) → Table
  | [] => []
  | (name, node) :: rest => (name, node.finish) :: finishEntries rest

/-- The values of the elements of an array of tables. -/
def finishElements : List (List (String × Node)) → List Value
  | [] => []
  | entries :: rest => .table (finishEntries entries) :: finishElements rest

end

/-- The table of pairs of a dotted key and a value. -/
def tableOf? (pairs : List (Key × Value)) : Option Table := do
  let entries ← pairs.foldlM (fun entries (key, value) => Entries.assign key value .header entries) []
  return finishEntries entries

end CardReader.Toml
