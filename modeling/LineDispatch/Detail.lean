import LineDispatch.Controller
import LineDispatch.Text.Quoted

/-!
# Details

The detail of a value is its structure written out: the name of each cause
with its fields in braces or parentheses, texts in quotes.  It can follow the
sentence of an error for who wants to see where it comes from.
-/

namespace LineDispatch.Detail

/-- A name with named fields. -/
def record (name : Text) (fields : List (Text × Text)) : Text :=
  let entry : Text × Text → Text := fun (label, value) => label ++ ": ".toList ++ value
  name ++ " \x7b " ++ Text.joinWith ", " (fields.map entry) ++ " \x7d"

/-- A name with one value. -/
def wrapped (name value : Text) : Text := name ++ '(' :: value ++ [')']

/-- A list of values. -/
def list (values : List Text) : Text := '[' :: Text.joinWith ", " values ++ [']']

/-- A value that may be absent. -/
def optional (value : Option Text) : Text :=
  match value with
  | some v => wrapped "Some" v
  | none => "None"

/-- The detail of a fault. -/
def ofFault : ParseFault → Text
  | .unclosedGroup d => record "Grouping" [("delimiter", Text.quotedChar d)]
  | .missingFlagValue flag => record "MissingFlagValue" [("flag", flag.quoted)]
  | .invalidNumber token expected =>
    record "InvalidNumber" [("token", token.quoted), ("expected", expected.quoted)]
  | .emptyCharacter => "InvalidCharacter"

/-- The detail of a parse error. -/
def ofParseError (e : ParseError) : Text :=
  record "ParameterParseError" [("kind", ofFault e.fault),
    ("input", list (e.tokens.map Text.quoted)), ("index", Text.ofNat e.index)]

/-- The detail of a command error. -/
def ofCommandError : CommandError → Text
  | .emptyCommand => "EmptyCommand"
  | .unknownCommand name suggestion =>
    record "UnknownCommand"
      [("name", name.quoted), ("suggestion", optional (suggestion.map Text.quoted))]
  | .parse e => wrapped "Parse" (ofParseError e)
  | .missingArgument index expected =>
    record "MissingArgument" [("index", Text.ofNat index), ("expected", expected.quoted)]
  | .failed m => wrapped "Failed" m.quoted

/-- The detail of a kind of scalars. -/
def ofScalarKind : ScalarKind → Text
  | .bool => "Bool"
  | .char => "Char"
  | .string => "Str"
  | .integer k => capital k.name
  | .float k => capital k.name
where
  /-- A name with its first letter in upper case. -/
  capital : Text → Text
  | c :: rest => c.toUpper :: rest
  | [] => []

/-- The detail of what is read for a parameter. -/
def ofSlot : Slot → Text
  | .scalar k => wrapped "Primitive" (ofScalarKind k)
  | .custom type => record "Custom" [("name", Text.quoted type)]
  | .flags => "Flags"

/-- The detail of an operation, its handler left out. -/
def ofOperation (op : Operation) : Text :=
  "Operation \x7b name: " ++ op.name.quoted
    ++ ", declared_name: " ++ op.declaredName.quoted
    ++ ", is_default: " ++ (if op.isDefault then "true" else "false")
    ++ ", params: " ++ list (op.slots.map ofSlot) ++ ", .. \x7d"

end LineDispatch.Detail
