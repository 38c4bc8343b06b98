import LineDispatch.Toml

/-!
# Tables under construction

The tables of a document are filled statement by statement, and what may still
be added to a table depends on how it came about.  A table that a header names
is explicit, and so are the elements of an array of tables: a dotted key does
not fill it.  One that a header only goes through is implicit: it can get its
own header later, until a dotted key goes through it.  One that a dotted key
has gone through gets no header of its own, though headers may go through it.
Values written in one piece are closed.
-/

namespace LineDispatch.Toml

/-- How a table came about. -/
inductive TableOrigin
  | header
  /-- A header went through it. -/
  | headerPath
  /-- A dotted key went through it. -/
  | keyPath
deriving DecidableEq, Repr

/-- What a key of a table under construction stands for. -/
inductive Node
  | closed (value : Value)
  | table (origin : TableOrigin) (entries : List (Text × Node))
  /-- An array of tables: its last table, and those before, the latest first. -/
  | tables (last : List (Text × Node)) (earlier : List (List (Text × Node)))

/-- The entries of a table under construction. -/
abbrev Entries := List (Text × Node)

namespace Entries

/-- The entries with a key standing for a node. -/
def place (key : Text) (node : Node) : Entries → Entries
  | [] => [(key, node)]
  | (k, n) :: rest => if k = key then (key, node) :: rest else (k, n) :: place key node rest

/-- Changes the entries of the table that a header leads to.  Tables that are not there are made on
the way, and an array of tables is entered at its last table. -/
def changeAt (change : Entries → Option Entries) : List Text → Entries → Option Entries
  | [], entries => change entries
  | step :: path, entries =>
    match entries.lookup step with
    | none =>
      (changeAt change path []).map fun inner => place step (.table .headerPath inner) entries
    | some (.table origin inner) =>
      (changeAt change path inner).map fun inner => place step (.table origin inner) entries
    | some (.tables last earlier) =>
      (changeAt change path last).map fun last => place step (.tables last earlier) entries
    | some (.closed _) => none

/-- Gives a value to a key behind a path of keys.  No key gets a second value.  The path does not go
through a table that has a header, and may enter an array of tables but not end in it. -/
def assign : List Text → Text → Value → Entries → Option Entries
  | [], key, value, entries =>
    if (entries.lookup key).isNone then some (entries ++ [(key, .closed value)]) else none
  | step :: path, key, value, entries =>
    match entries.lookup step with
    | none =>
      (assign path key value []).map fun inner => place step (.table .keyPath inner) entries
    | some (.table origin inner) =>
      if origin = .header then none
      else (assign path key value inner).map fun inner =>
        place step (.table .keyPath inner) entries
    | some (.tables last earlier) =>
      if path = [] then none
      else (assign path key value last).map fun last => place step (.tables last earlier) entries
    | some (.closed _) => none

/-- Opens the table of a header. -/
def openTable (path : List Text) (key : Text) : Entries → Option Entries :=
  changeAt (fun entries =>
    match entries.lookup key with
    | none => some (entries ++ [(key, .table .header [])])
    | some (.table .headerPath inner) => some (place key (.table .header inner) entries)
    | some _ => none) path

/-- Adds a table to the array of tables of a header. -/
def openElement (path : List Text) (key : Text) : Entries → Option Entries :=
  changeAt (fun entries =>
    match entries.lookup key with
    | none => some (entries ++ [(key, .tables [] [])])
    | some (.tables last earlier) => some (place key (.tables [] (last :: earlier)) entries)
    | some _ => none) path

end Entries

namespace Node

mutual

/-- The value of a node when nothing more is added. -/
def value : Node → Value
  | .closed v => v
  | .table _ entries => .table (values entries)
  | .tables last earlier => .array ((elements earlier).reverse ++ [.table (values last)])

/-- The values of entries. -/
def values : List (Text × Node) → List (Text × Value)
  | [] => []
  | (key, node) :: rest => (key, value node) :: values rest

/-- The values of the tables of an array. -/
def elements : List (List (Text × Node)) → List Value
  | [] => []
  | entries :: rest => .table (values entries) :: elements rest

end

end Node

/-- The table of values that are assigned one after the other. -/
def Value.ofAssignments (assignments : List ((List Text × Text) × Value)) : Option Value := do
  let entries ← assignments.foldlM (fun entries ((path, key), value) =>
    Entries.assign path key value entries) ([] : Entries)
  return .table (Node.values entries)

end LineDispatch.Toml
