import LineDispatch.Controller

/-!
# Paths through a controller

The words of a call are a path.  At each scope an operation of the next word's
name ends the path, else a field of that name leads on to its scope; a word
that names neither, like the end of the path, is left to the default operation
of the scope, for which it is the first argument.
-/

namespace LineDispatch

/-- Where a path ends without an operation: the word that names nothing, or the end of the path,
and the number of words before it. -/
structure PathNotFound where
  segment : Option Text
  depth : Nat
deriving DecidableEq, Repr

namespace PathNotFound

/-- The sentence that tells the error. -/
def message (e : PathNotFound) : Text :=
  let what : Text := match e.segment with
    | some s => "'" ++ s ++ "'"
    | none => "an empty path"
  "no operation or field matches " ++ what ++ " at depth " ++ Text.ofNat e.depth

end PathNotFound

/-- Where a path leads: the operation, the fields on the way to its scope, and the number of words
that named fields or the operation. -/
structure Resolution where
  fields : List Text
  operation : Operation
  consumed : Nat

namespace Resolution

/-- The same operation, reached through one more field in front. -/
def under (field : Text) (r : Resolution) : Resolution :=
  { r with fields := field :: r.fields, consumed := r.consumed + 1 }

end Resolution

namespace Controller

/-- Leaves the rest of a path to the default operation of the scope. -/
def fallBack (c : Controller) (segment : Option Text) : Except PathNotFound Resolution :=
  match c.defaultOperation with
  | some op => .ok ⟨[], op, 0⟩
  | none => .error ⟨segment, 0⟩

/-- Walks a path down to an operation. -/
def resolve (c : Controller) : List Text → Except PathNotFound Resolution
  | [] => c.fallBack none
  | segment :: rest =>
    match c.selectOperation segment rest.length with
    | some op => .ok ⟨[], op, 1⟩
    | none =>
      match c.field segment with
      | none => c.fallBack (some segment)
      | some f =>
        match f.scope.resolve rest with
        | .ok r => .ok (r.under f.name)
        | .error e => .error { e with depth := e.depth + 1 }

/-- The scope that a path of field names leads to, none of which names an operation. -/
def reach (c : Controller) : List Text → Option Controller
  | [] => some c
  | segment :: rest =>
    match c.field segment with
    | some f => if (c.selectOperation segment 0).isNone then f.scope.reach rest else none
    | none => none

/-- The names of the members of the scope. -/
def memberNames (c : Controller) : List Text :=
  c.operations.map (·.name) ++ c.fields.map (·.name)

/-- The names that can follow a path and begin with `beginning`, each once and in order.  Behind an
operation there are none, for what follows are its arguments. -/
def completions (c : Controller) (path : List Text) (beginning : Text) : List Text :=
  match c.reach path with
  | some scope =>
    let names := scope.memberNames.filter (beginning.isPrefixOf ·)
    (Table.ofList (names.map fun name => (name, ()))).keys
  | none => []

mutual

/-- The usage lines of a scope, the names of the fields that lead to it put in front. -/
def usageUnder (path : Text) : Controller → List Text
  | ⟨_, operations, fields⟩ =>
    operations.map (fun op => path ++ op.signature ++ if op.isDefault then " (default)" else "")
      ++ usageOfFields path fields

/-- The usage lines of the scopes in a list of fields. -/
def usageOfFields (path : Text) : List Field → List Text
  | [] => []
  | ⟨name, _, scope⟩ :: rest => usageUnder (path ++ name ++ [' ']) scope ++ usageOfFields path rest

end

/-- One line for each operation: its fields, its name and the types of its arguments. -/
def usageLines (c : Controller) : List Text := usageUnder [] c

end Controller

end LineDispatch
