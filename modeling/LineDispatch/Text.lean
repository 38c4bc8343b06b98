/-!
# Texts

Everything a line interface reads and writes is text.  A text is the list of
its characters, so that a position in a text is a position in a list, the
length of a text counts characters, and the order on texts is the
lexicographic order of their code points, which is also the order of their
UTF-8 encodings byte by byte.
-/

namespace LineDispatch

/-- A text: the list of its characters. -/
abbrev Text := List Char

instance : Coe String Text := ⟨String.toList⟩

namespace Text

/-- The decimal digits of a number, most significant first. -/
def ofNat (n : Nat) : Text := Nat.toDigits 10 n

/-- A number in decimal, with a leading minus sign when it is negative. -/
def ofInt : Int → Text
  | .ofNat n => ofNat n
  | .negSucc n => '-' :: ofNat (n + 1)

/-- The words put in one line, single spaces between them. -/
def unwords (words : List Text) : Text := List.intercalate [' '] words

/-- The texts put after one another with `separator` between them. -/
def joinWith (separator : Text) (texts : List Text) : Text := List.intercalate separator texts

/-- Whether the text begins with the character `c`. -/
def opensWith (c : Char) (t : Text) : Bool := t.head? == some c

/-- Whether the text ends in the character `c`. -/
def closesWith (c : Char) (t : Text) : Bool := t.getLast? == some c

/-- The text without the longest run of `drop`-characters at its end. -/
def dropTrailing (drop : Char → Bool) (t : Text) : Text := (t.reverse.dropWhile drop).reverse

/-- The text `n` times in a row. -/
def replicate (n : Nat) (t : Text) : Text := (List.replicate n t).flatten

/-- The lines of a text: each ends at a line feed, which is dropped together
with one carriage return before it, and the last may go without. -/
def lines (t : Text) : List Text :=
  go [] t
where
  /-- Reads on with the characters of the current line held in reverse. -/
  go : Text → Text → List Text
  | [], [] => []
  | held, [] => [held.reverse]
  | held, '\n' :: rest => finish held :: go [] rest
  | held, c :: rest => go (c :: held) rest
  /-- A finished line, without the carriage return it may end in. -/
  finish : Text → Text
  | '\r' :: held => held.reverse
  | held => held.reverse

@[simp] theorem opensWith_cons (c d : Char) (t : Text) : opensWith c (d :: t) = (d == c) := by
  simp [opensWith]

@[simp] theorem closesWith_nil (c : Char) : closesWith c [] = false := rfl

@[simp] theorem closesWith_singleton (c d : Char) : closesWith c [d] = (d == c) := by
  simp [closesWith]

@[simp] theorem closesWith_cons_cons (c d e : Char) (t : Text) :
    closesWith c (d :: e :: t) = closesWith c (e :: t) := by
  simp [closesWith]

@[simp] theorem closesWith_concat (c d : Char) (t : Text) :
    closesWith c (t ++ [d]) = (d == c) := by
  simp [closesWith]

end Text

end LineDispatch
