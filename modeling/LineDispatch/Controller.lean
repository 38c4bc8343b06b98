import LineDispatch.Operation

/-!
# Controllers

A controller is a scope: a list of operations and a list of fields, each of
which holds a scope of its own, so that the first words of a call lead down
the fields to an operation.  `Controller.build` is how a scope is made, and it
refuses one in which a name could mean two things.
-/

namespace LineDispatch

mutual

/-- A scope of operations and of fields with scopes of their own. -/
structure Controller where
  typeName : Text
  operations : List Operation
  fields : List Field

/-- A field of a scope: a name for a scope within it. -/
structure Field where
  /-- The name that words of a path are matched against. -/
  name : Text
  declaredName : Text
  scope : Controller

end

/-- The field declared under a name, with its tag. -/
def Field.declare (tag : Tag) (declared : Text) (scope : Controller) : Field :=
  ⟨tag.effectiveName declared, declared, scope⟩

/-- Why a scope is refused. -/
inductive DefinitionError
  | multipleDefaults (scope first second : Text)
  | duplicateOperation (scope name : Text) (arity : Nat)
  | duplicateField (scope name : Text)
deriving DecidableEq, Repr

namespace DefinitionError

/-- The sentence that tells the error. -/
def message : DefinitionError → Text
  | .multipleDefaults scope first second =>
    "controller '" ++ scope ++ "' marks both '" ++ first ++ "' and '" ++ second ++ "' as default"
  | .duplicateOperation scope name arity =>
    "controller '" ++ scope ++ "' declares '" ++ name ++ "' twice with " ++ Text.ofNat arity
      ++ " parameter(s)"
  | .duplicateField scope name =>
    "controller '" ++ scope ++ "' declares field '" ++ name ++ "' twice"

end DefinitionError

/-- The first element that is equal to one before it, or to one of those already seen. -/
def firstRepeat {α : Type} [DecidableEq α] (seen : List α) : List α → Option α
  | [] => none
  | a :: rest => if a ∈ seen then some a else firstRepeat (a :: seen) rest

namespace Controller

/-- Makes a scope of its members, unless it has two defaults, two operations of one name and
arity, or two fields of one name; the error is the first of these. -/
def build (typeName : Text) (operations : List Operation) (fields : List Field) :
    Except DefinitionError Controller :=
  match operations.filter (·.isDefault) with
  | first :: second :: _ => .error (.multipleDefaults typeName first.name second.name)
  | _ =>
    match firstRepeat [] (operations.map fun op => (op.name, op.arity)) with
    | some (name, arity) => .error (.duplicateOperation typeName name arity)
    | none =>
      match firstRepeat [] (fields.map (·.name)) with
      | some name => .error (.duplicateField typeName name)
      | none => .ok ⟨typeName, operations, fields⟩

/-- The operation of the scope that is called without a name. -/
def defaultOperation (c : Controller) : Option Operation := c.operations.find? (·.isDefault)

/-- The field of a name. -/
def field (c : Controller) (name : Text) : Option Field := c.fields.find? (·.name = name)

/-- The operation that a name means with `remaining` tokens after it: of several the one of that
arity, else the default one, else the first. -/
def selectOperation (c : Controller) (name : Text) (remaining : Nat) : Option Operation :=
  match c.operations.filter (·.name = name) with
  | [] => none
  | [only] => some only
  | candidates =>
    (candidates.find? (·.arity = remaining)).or
      ((candidates.find? (·.isDefault)).or candidates.head?)

end Controller

end LineDispatch
