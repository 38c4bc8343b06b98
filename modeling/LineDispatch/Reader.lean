import LineDispatch.Context
import LineDispatch.ReadPlan

/-!
# Reading the parameters of a call

A reader goes over the positional parameters of one call with a cursor.  A
scalar takes one token, which stays taken when it turns out not to fit; a
custom type hands the reader to its parser; flags are read by key and take
nothing.  A `Reading` is what a read does: it gets the cursor and gives a
result or an error, and in both cases the cursor after it.
-/

namespace LineDispatch

/-- A read: from the cursor before it to its result or error and the cursor after it. -/
def Reading (α : Type) : Type := Nat → Except CommandError α × Nat

namespace Reading

variable {α β : Type}

/-- Gives a result or an error without moving the cursor. -/
def give (result : Except CommandError α) : Reading α := fun p => (result, p)

/-- Goes on from the cursor after a read, be it with its result or with its error. -/
def handle (m : Reading α) (next : α → Reading β) (rescue : CommandError → Reading β) :
    Reading β := fun p =>
  match m p with
  | (.ok a, q) => next a q
  | (.error e, q) => rescue e q

instance : Monad Reading where
  pure a := give (.ok a)
  bind m f := m.handle f fun e => give (.error e)

@[simp] theorem pure_apply (a : α) (p : Nat) : (pure a : Reading α) p = (.ok a, p) := rfl

@[simp] theorem give_apply (r : Except CommandError α) (p : Nat) : give r p = (r, p) := rfl

theorem bind_apply (m : Reading α) (f : α → Reading β) (p : Nat) :
    (m >>= f) p = match m p with
      | (.ok a, q) => f a q
      | (.error e, q) => (.error e, q) := rfl

section Steps

variable {m : Reading α} {p q : Nat}

theorem handle_of_ok {a : α} (h : m p = (.ok a, q)) (next : α → Reading β)
    (rescue : CommandError → Reading β) : m.handle next rescue p = next a q := by
  rw [handle, h]

theorem handle_of_error {e : CommandError} (h : m p = (.error e, q)) (next : α → Reading β)
    (rescue : CommandError → Reading β) : m.handle next rescue p = rescue e q := by
  rw [handle, h]

theorem bind_of_ok {a : α} (h : m p = (.ok a, q)) (f : α → Reading β) : (m >>= f) p = f a q :=
  handle_of_ok h f _

theorem bind_of_error {e : CommandError} (h : m p = (.error e, q)) (f : α → Reading β) :
    (m >>= f) p = (.error e, q) :=
  handle_of_error h f _

theorem exists_of_bind_eq_ok {f : α → Reading β} {b : β} (h : (m >>= f) p = (.ok b, q)) :
    ∃ a q', m p = (.ok a, q') ∧ f a q' = (.ok b, q) := by
  cases hm : m p with
  | mk result q' =>
    cases result with
    | ok a => exact ⟨a, q', rfl, (bind_of_ok hm f).symm.trans h⟩
    | error e => cases (bind_of_error hm f).symm.trans h

end Steps

end Reading

/-- What a call's parameters are read from: its context, and the parsers of custom types. -/
structure Reader where
  context : Context
  parsers : TypeParsers := {}

namespace Reader

variable {α : Type}

/-- The number of positional parameters from the cursor on. -/
def remaining (r : Reader) (position : Nat) : Nat := r.context.parameters.length - position

/-- Whether there is a parameter at the cursor. -/
def hasNext (r : Reader) (position : Nat) : Bool := position < r.context.parameters.length

/-- Takes the next token as it is. -/
def token (r : Reader) : Reading (Option Text) := fun p =>
  match r.context.parameters[p]? with
  | some t => (.ok (some t), p + 1)
  | none => (.ok none, p)

/-- Reads the next token as a scalar. -/
def scalar (r : Reader) (kind : ScalarKind) : Reading (Option Bound) := fun p =>
  match r.context.parameters[p]? with
  | none => (.ok none, p)
  | some t =>
    match kind.coerce t with
    | .ok v => (.ok (some (.scalar v)), p + 1)
    | .error fault => (.error (.parse ⟨fault, r.context.parameters, p⟩), p + 1)

/-- Reads what a parameter asks for, custom types by the given reading. -/
def slotWith (r : Reader) (custom : Text → Reading (Option Bound)) : Slot → Reading (Option Bound)
  | .scalar kind => r.scalar kind
  | .custom type => custom type
  | .flags => pure (some (.flags r.context.flags))

/-- Reads an argument, custom types by the given reading; nothing bound is no error here. -/
def argumentWith (r : Reader) (custom : Text → Reading (Option Bound)) (type : ArgumentType) :
    Reading (Option Argument) := fun p =>
  match r.slotWith custom type.slot p with
  | (.ok none, q) => (.ok none, q)
  | (.ok (some b), q) => ((type.take (some b) p).map some, q)
  | (.error e, q) => (.error e, q)

/-- Reads the value of the flag `key` as an argument.  A flag that is absent and a type that is
not scalar give nothing; a flag without a value is true, and nothing at any other type.  An error
points at the value's token. -/
def flag (r : Reader) (type : ArgumentType) (key : Text) : Except CommandError (Option Argument) :=
  match r.context.flags.get? key, type.slot with
  | some value, .scalar kind =>
    match value.or (if kind = .bool then some "true".toList else none) with
    | none => .ok none
    | some raw =>
      match kind.coerce raw with
      | .ok v => (type.take (some (.scalar v)) 0).map some
      | .error fault =>
        match r.context.flagValueIndex key with
        | some i => .error (.parse ⟨fault, r.context.tokens, i⟩)
        | none => .error (.parse ⟨fault, [key, raw], 1⟩)
  | _, _ => .ok none

/-- Follows a plan, custom types read by the given reading. -/
def followWith (r : Reader) (custom : Text → Reading (Option Bound)) : ReadPlan α → Reading α
  | .done a => pure a
  | .fail m => .give (.error (.failed m))
  | .pass e => .give (.error e)
  | .read type next rescue =>
    (r.argumentWith custom type).handle (fun a => r.followWith custom (next a))
      fun e => r.followWith custom (rescue e)
  | .flag type key next rescue =>
    (Reading.give (r.flag type key)).handle (fun a => r.followWith custom (next a))
      fun e => r.followWith custom (rescue e)
  | .token next => do
    let t ← r.token
    r.followWith custom (next t)
  | .position next => fun p => r.followWith custom (next p) p
  | .parameters next => r.followWith custom (next r.context.parameters)
  | .flags next => r.followWith custom (next r.context.flags)
  | .tokens next => r.followWith custom (next r.context.tokens)

/-- The failure of parsers that read each other without ever coming to an end. -/
def endlessParsers : CommandError := .failed "Type parsers read each other without end"

/-- Reads a value of a custom type by its parser, parsers within parsers to a bounded depth.
A type without a parser is bound to nothing. -/
def customWithin (r : Reader) : Nat → Text → Reading (Option Bound)
  | 0, _ => .give (.error endlessParsers)
  | depth + 1, type =>
    match r.parsers.get? type with
    | none => pure none
    | some plan => do
      let parts ← r.followWith (r.customWithin depth) plan
      return some (.custom type parts)

/-- How deep parsers can be within parsers.  A parser that is run again inside itself at the same
cursor does so for ever, so along a run that ends no pair of a type and a cursor comes twice. -/
def depth (r : Reader) : Nat := r.parsers.size * (r.context.parameters.length + 1) + 1

/-- Reads a value of a custom type. -/
def custom (r : Reader) : Text → Reading (Option Bound) := r.customWithin r.depth

/-- Reads what a parameter asks for. -/
def slot (r : Reader) : Slot → Reading (Option Bound) := r.slotWith r.custom

/-- Reads an argument. -/
def argument (r : Reader) : ArgumentType → Reading (Option Argument) := r.argumentWith r.custom

/-- Follows a plan. -/
def follow (r : Reader) : ReadPlan α → Reading α := r.followWith r.custom

/-- Binds what parameters ask for to the tokens, in order.  One that takes tokens is bound to
nothing once they have run out; tokens left over do no harm. -/
def bind (r : Reader) : List Slot → Reading (List (Option Bound))
  | [] => pure []
  | s :: rest => do
    let b ← fun p => if s.takesToken && !r.hasNext p then (.ok none, p) else r.slot s p
    let bs ← r.bind rest
    return b :: bs

end Reader

end LineDispatch
