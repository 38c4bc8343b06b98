import LineDispatch.Binary.Numeral
import LineDispatch.Binary.Shortest
import LineDispatch.ParseError
import LineDispatch.Text.Blank

/-!
# Scalars

The values a single token can stand for: truth values, characters, texts,
integers of a bounded kind and floating-point numbers.  Every number is read
as a double first and then narrowed to its kind: an integer loses its
fraction and is kept within its range, a single is rounded once more.
-/

namespace LineDispatch

/-- The kinds of bounded integers. -/
inductive IntegerKind
  | i8 | i16 | i32 | i64 | isize | u8 | u16 | u32 | u64 | usize
deriving DecidableEq, Repr

namespace IntegerKind

/-- The number of bits of the kind. -/
def bits : IntegerKind → Nat
  | .i8 | .u8 => 8
  | .i16 | .u16 => 16
  | .i32 | .u32 => 32
  | .i64 | .u64 | .isize | .usize => 64

/-- Whether the kind has negative integers. -/
def isSigned : IntegerKind → Bool
  | .i8 | .i16 | .i32 | .i64 | .isize => true
  | .u8 | .u16 | .u32 | .u64 | .usize => false

/-- The least integer of the kind. -/
def least (k : IntegerKind) : Int :=
  if k.isSigned then -(Nat.pow 2 (k.bits - 1) : Nat) else 0

/-- The greatest integer of the kind. -/
def greatest (k : IntegerKind) : Int :=
  (Nat.pow 2 (if k.isSigned then k.bits - 1 else k.bits) : Nat) - 1

/-- The name of the kind. -/
def name : IntegerKind → Text
  | .i8 => "i8"
  | .i16 => "i16"
  | .i32 => "i32"
  | .i64 => "i64"
  | .isize => "isize"
  | .u8 => "u8"
  | .u16 => "u16"
  | .u32 => "u32"
  | .u64 => "u64"
  | .usize => "usize"

end IntegerKind

/-- The kinds of floating-point numbers. -/
inductive FloatKind
  | f32 | f64
deriving DecidableEq, Repr

namespace FloatKind

/-- The format of the kind. -/
def format : FloatKind → BinaryFormat
  | .f32 => .single
  | .f64 => .double

/-- The name of the kind. -/
def name : FloatKind → Text
  | .f32 => "f32"
  | .f64 => "f64"

end FloatKind

/-- The kinds of scalars. -/
inductive ScalarKind
  | bool
  | char
  | string
  | integer (kind : IntegerKind)
  | float (kind : FloatKind)
deriving DecidableEq, Repr

namespace ScalarKind

/-- The name of the kind. -/
def name : ScalarKind → Text
  | .bool => "bool"
  | .char => "char"
  | .string => "string"
  | .integer k => k.name
  | .float k => k.name

/-- All kinds. -/
def all : List ScalarKind :=
  [.bool, .char, .string, .integer .i8, .integer .i16, .integer .i32, .integer .i64,
    .integer .isize, .integer .u8, .integer .u16, .integer .u32, .integer .u64,
    .integer .usize, .float .f32, .float .f64]

/-- The kind of a name. -/
def ofName? (name : Text) : Option ScalarKind := all.find? (·.name = name)

/-- Whether the kind is numeric. -/
def isNumber : ScalarKind → Bool
  | .integer _ | .float _ => true
  | _ => false

end ScalarKind

/-- A value that one token can stand for. -/
inductive Scalar
  | bool (value : Bool)
  | char (value : Char)
  | text (value : Text)
  | integer (kind : IntegerKind) (value : Int)
  | float (kind : FloatKind) (value : Binary)
deriving DecidableEq, Repr

namespace Scalar

/-- The kind of a value. -/
def kind : Scalar → ScalarKind
  | .bool _ => .bool
  | .char _ => .char
  | .text _ => .string
  | .integer k _ => .integer k
  | .float k _ => .float k

/-- The text of a value. -/
def render : Scalar → Text
  | .bool b => if b then "true" else "false"
  | .char c => [c]
  | .text t => t
  | .integer _ n => Text.ofInt n
  | .float k x => x.text k.format

end Scalar

namespace ScalarKind

/-- The double that a token stands for, blanks around the numeral allowed. -/
def number? (token : Text) : Option Binary :=
  (Numeral.parse token.trim).map (Numeral.toBinary .double)

/-- Reads one token as a value of the kind.  Any token is a truth value (only the word for true,
in letters of either case, is true) and a text; a character is the first of its token. -/
def coerce (kind : ScalarKind) (token : Text) : Except ParseFault Scalar :=
  match kind with
  | .bool => .ok (.bool (token.map Char.toLower == "true".toList))
  | .char =>
    match token with
    | c :: _ => .ok (.char c)
    | [] => .error .emptyCharacter
  | .string => .ok (.text token)
  | .integer k =>
    match number? token with
    | some x => .ok (.integer k (x.truncate k.least k.greatest))
    | none => .error (.invalidNumber token k.name)
  | .float k =>
    match number? token with
    | some x => .ok (.float k (x.convert k.format))
    | none => .error (.invalidNumber token k.name)

/-- A token is read at the kind it is asked for. -/
theorem kind_of_coerce {kind : ScalarKind} {token : Text} {v : Scalar}
    (h : kind.coerce token = .ok v) : v.kind = kind := by
  cases kind with
  | bool =>
    cases h
    rfl
  | char =>
    cases token with
    | nil => cases h
    | cons c _ =>
      cases h
      rfl
  | string =>
    cases h
    rfl
  | integer k | float k =>
    simp only [coerce] at h
    split at h
    · cases h
      rfl
    · cases h

end ScalarKind

end LineDispatch
