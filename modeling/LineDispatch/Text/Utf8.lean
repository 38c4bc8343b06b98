import LineDispatch.Text

/-!
# UTF-8

Texts as bytes.  A decoder reads one byte after the other and refuses a byte
at the first place where no character can go on with it, so that the bytes it
took since the last character are as long a beginning of one as there is.  The
strict decoder gives up there, the lossy one puts a replacement character for
that beginning and starts again with the byte it refused.
-/

namespace LineDispatch.Utf8

/-- Where a decoder stands: between characters, or inside one, with the bytes owed after the next,
the range of the next, and the code so far. -/
inductive State
  | start
  | inside (owed low high code : Nat)
deriving DecidableEq, Repr

/-- A first byte of a character: the character if it is all of it, and the state behind it. -/
def first (b : Nat) : Option (Text × State) :=
  if b < 0x80 then some ([Char.ofNat b], .start)
  else if 0xC2 ≤ b ∧ b ≤ 0xDF then some ([], .inside 0 0x80 0xBF (b - 0xC0))
  else if b = 0xE0 then some ([], .inside 1 0xA0 0xBF 0)
  else if b = 0xED then some ([], .inside 1 0x80 0x9F 0xD)
  else if 0xE1 ≤ b ∧ b ≤ 0xEF then some ([], .inside 1 0x80 0xBF (b - 0xE0))
  else if b = 0xF0 then some ([], .inside 2 0x90 0xBF 0)
  else if 0xF1 ≤ b ∧ b ≤ 0xF3 then some ([], .inside 2 0x80 0xBF (b - 0xF0))
  else if b = 0xF4 then some ([], .inside 2 0x80 0x8F 4)
  else none

/-- One more byte: what it completes and the state behind it, unless it cannot stand there. -/
def step : State → Nat → Option (Text × State)
  | .start, b => first b
  | .inside owed low high code, b =>
    if low ≤ b ∧ b ≤ high then
      let code := 64 * code + (b - 0x80)
      match owed with
      | 0 => some ([Char.ofNat code], .start)
      | owed + 1 => some ([], .inside owed 0x80 0xBF code)
    else none

/-- What stands for bytes that are no character. -/
def replacement : Char := '\uFFFD'

/-- One more byte for the lossy decoder. -/
def lossyStep (s : State) (b : Nat) : Text × State :=
  match step s b with
  | some next => next
  | none =>
    match s with
    | .start => ([replacement], .start)
    | .inside .. =>
      match first b with
      | some (t, s) => (replacement :: t, s)
      | none => ([replacement, replacement], .start)

/-- Decodes bytes from a state on, replacing what is no character. -/
def lossyFrom : State → List UInt8 → Text
  | .start, [] => []
  | .inside .., [] => [replacement]
  | s, b :: rest =>
    let (t, s') := lossyStep s b.toNat
    t ++ lossyFrom s' rest

/-- Decodes bytes, replacing what is no character. -/
def lossy (bytes : List UInt8) : Text := lossyFrom .start bytes

/-- Decodes bytes from a state on, if they are all characters. -/
def strictFrom : State → List UInt8 → Option Text
  | .start, [] => some []
  | .inside .., [] => none
  | s, b :: rest => do
    let (t, s') ← step s b.toNat
    let text ← strictFrom s' rest
    return t ++ text

/-- Decodes bytes, if they are all characters. -/
def strict (bytes : List UInt8) : Option Text := strictFrom .start bytes

/-- The bytes of a character. -/
def encodeChar (c : Char) : List UInt8 := String.utf8EncodeChar c

/-- The bytes of a text. -/
def encode (t : Text) : List UInt8 := t.flatMap encodeChar

end LineDispatch.Utf8
