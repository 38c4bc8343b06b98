import LineDispatch.CommandError
import LineDispatch.Flags
import LineDispatch.Scalar
import LineDispatch.TypeName

/-!
# Parameters and arguments

A signature gives each parameter the type of its argument.  Reading a
parameter sees less than that: an optional parameter is read like a required
one (`ArgumentType.slot`), and what was read is a bound value that has lost
its type.  `ArgumentType.take` gives the type back, and it is there that a
required argument with nothing bound to it is found missing.
-/

namespace LineDispatch

/-- What is read for a parameter. -/
inductive Slot
  | scalar (kind : ScalarKind)
  /-- A value of a custom type, known by its full name, which a type parser reads. -/
  | custom (type : Text)
  /-- The flags of the call. -/
  | flags
deriving DecidableEq, Repr

namespace Slot

/-- The name shown for what is read. -/
def name : Slot → Text
  | .scalar k => k.name
  | .custom type => TypeName.short type
  | .flags => "flags"

/-- Whether reading takes positional tokens. -/
def takesToken : Slot → Bool
  | .flags => false
  | _ => true

end Slot

/-- The type of an argument. -/
inductive ArgumentType
  | scalar (kind : ScalarKind)
  | flags
  | custom (type : Text)
  | optional (type : ArgumentType)
deriving DecidableEq, Repr

namespace ArgumentType

/-- What is read for an argument of the type. -/
def slot : ArgumentType → Slot
  | .scalar k => .scalar k
  | .flags => .flags
  | .custom type => .custom type
  | .optional type => type.slot

/-- The type of a name: a question mark behind it makes a type optional. -/
def ofName (name : Text) : ArgumentType := go name.reverse
where
  /-- The type of a name that is held in reverse. -/
  go : Text → ArgumentType
  | '?' :: rest => .optional (go rest)
  | reversed =>
    let name := reversed.reverse
    if name = "flags".toList then .flags
    else match ScalarKind.ofName? name with
      | some kind => .scalar kind
      | none => .custom name

end ArgumentType

/-- A value as it was read.  One of a custom type is the list of parts that its parser made. -/
inductive Bound
  | scalar (value : Scalar)
  | flags (value : Flags)
  | custom (type : Text) (parts : List Scalar)
deriving DecidableEq

/-- A value as an operation gets it. -/
inductive Argument
  | value (bound : Bound)
  | absent
  | present (argument : Argument)
deriving DecidableEq

namespace Flags

/-- The flags as text, in the order of their keys. -/
def render (flags : Flags) : Text :=
  let entry : Text × Option Text → Text
    | (key, some value) => key ++ '=' :: value
    | (key, none) => key
  "flags(" ++ Text.joinWith [';'] (flags.entries.map entry) ++ [')']

end Flags

namespace Bound

/-- The text of a value. -/
def render : Bound → Text
  | .scalar v => v.render
  | .flags f => f.render
  | .custom type parts =>
    TypeName.short type ++ '(' :: Text.joinWith [','] (parts.map Scalar.render) ++ [')']

/-- What the value was read for. -/
def slot : Bound → Slot
  | .scalar v => .scalar v.kind
  | .flags _ => .flags
  | .custom type _ => .custom type

end Bound

namespace Argument

/-- The text of an argument. -/
def render : Argument → Text
  | .value b => b.render
  | .absent => "none"
  | .present a => "some(" ++ a.render ++ [')']

end Argument

namespace ArgumentType

/-- Takes the value bound to the parameter at `index` out at its type.  Flags are never missing:
without a value there are none. -/
def take : ArgumentType → Option Bound → Nat → Except CommandError Argument
  | .flags, some (.flags f), _ => .ok (.value (.flags f))
  | .flags, _, _ => .ok (.value (.flags {}))
  | .optional _, none, _ => .ok .absent
  | .optional type, some b, i => (type.take (some b) i).map .present
  | type, some b, i =>
    if b.slot = type.slot then .ok (.value b) else .error (.missingArgument i type.slot.name)
  | type, none, i => .error (.missingArgument i type.slot.name)

end ArgumentType

end LineDispatch
