import LineDispatch.Reader

/-!
# Operations

An operation is a handler with a signature.  The signature says what is read
for each parameter; the handler gets the arguments at the types it asked for,
once all of them are there.  A tag can give an operation another name than it
was declared under and make it the default of its scope.
-/

namespace LineDispatch

/-- What is noted on a member of a scope besides its declaration. -/
structure Tag where
  /-- The name to match in place of the declared one; an empty name stands for none. -/
  name : Text := []
  isDefault : Bool := false
deriving DecidableEq, Repr

namespace Tag

/-- The name that the tag gives, if it gives one. -/
def explicitName (t : Tag) : Option Text := if t.name = [] then none else some t.name

/-- The name that a member with this tag is matched under. -/
def effectiveName (t : Tag) (declared : Text) : Text := t.explicitName.getD declared

end Tag

/-- A handler with its signature and the names it goes by. -/
structure Operation where
  /-- The name that words of a path are matched against. -/
  name : Text
  declaredName : Text
  isDefault : Bool
  parameters : List ArgumentType
  /-- Gets one argument for each parameter and gives the result or the text of its failure. -/
  handler : List Argument → Except Text Text

namespace Operation

/-- The operation declared under a name, with its tag. -/
def declare (tag : Tag) (declared : Text) (parameters : List ArgumentType)
    (handler : List Argument → Except Text Text) : Operation :=
  ⟨tag.effectiveName declared, declared, tag.isDefault, parameters, handler⟩

/-- What is read for the parameters. -/
def slots (op : Operation) : List Slot := op.parameters.map ArgumentType.slot

/-- The slots that take tokens. -/
def tokenSlots (op : Operation) : List Slot := op.slots.filter Slot.takesToken

/-- The number of tokens that the signature asks for. -/
def arity (op : Operation) : Nat := op.tokenSlots.length

/-- The name, and after it the types of the parameters that take tokens. -/
def signature (op : Operation) : Text :=
  op.name ++ op.tokenSlots.flatMap fun s => " <".toList ++ s.name ++ ['>']

/-- Takes the arguments out of what was bound to the parameters, from the parameter at `index`
on; the first that is missing is the error. -/
def takeAll (index : Nat) : List ArgumentType → List (Option Bound) →
    Except CommandError (List Argument)
  | [], _ => .ok []
  | type :: types, bound => do
    let argument ← type.take bound.head?.join index
    let arguments ← takeAll (index + 1) types bound.tail
    return argument :: arguments

/-- Binds the parameters of a call to the signature and calls the handler. -/
def invoke (op : Operation) (r : Reader) : Except CommandError Text := do
  let bound ← (r.bind op.slots 0).1
  let arguments ← takeAll 0 op.parameters bound
  (op.handler arguments).mapError .failed

end Operation

end LineDispatch
