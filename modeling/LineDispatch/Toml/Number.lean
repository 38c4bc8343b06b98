import LineDispatch.Toml.Literal

/-!
# Numbers of TOML

An integer is decimal with an optional sign and no needless zero in front, or
hexadecimal, octal or binary behind its mark and without a sign.  A float has
a fraction, an exponent or both behind a decimal integer, or is a word.
Underscores may stand between digits.
-/

namespace LineDispatch.Toml

/-- Digits without the underscores between them; nothing if one is not between two digits. -/
def ungrouped? (isDigit : Char → Bool) (t : Text) : Option Text :=
  let groups := t.splitOn '_'
  if groups.all (fun g => g ≠ [] && g.all isDigit) then some groups.flatten else none

/-- Decimal digits without a needless zero in front. -/
def decimal? (t : Text) : Option Text := do
  let digits ← ungrouped? Char.isDigit t
  if digits.length = 1 ∨ digits.head? ≠ some '0' then some digits else none

/-- The number of digits in a base. -/
def inBase? (base : Nat) (t : Text) : Option Int := do
  let isDigit := fun c => match hexDigit? c with
    | some d => d < base
    | none => false
  let digits ← ungrouped? isDigit t
  let values ← digits.mapM hexDigit?
  return (values.foldl (fun n d => base * n + d) 0 : Nat)

/-- An integer. -/
def integer? (t : Text) : Option Int :=
  match t with
  | '0' :: 'x' :: digits => inBase? 16 digits
  | '0' :: 'o' :: digits => inBase? 8 digits
  | '0' :: 'b' :: digits => inBase? 2 digits
  | _ =>
    let (negative, digits) := Numeral.sign t
    (decimal? digits).map fun digits =>
      if negative then -(Numeral.ofDigits digits : Int) else Numeral.ofDigits digits

/-- An exponent mark with its exponent, underscores taken out, or nothing at all. -/
def exponent? (t : Text) : Option Text :=
  match t with
  | [] => some []
  | c :: rest =>
    if c = 'e' ∨ c = 'E' then
      let (negative, digits) := Numeral.sign rest
      (ungrouped? Char.isDigit digits).map fun digits =>
        if negative then 'e' :: '-' :: digits else 'e' :: digits
    else none

/-- What a float has behind its integer: a fraction, an exponent or both. -/
def floatTail? (t : Text) : Option Text :=
  let isMark := fun c => c == 'e' || c == 'E'
  match t with
  | '.' :: rest => do
    let part ← ungrouped? Char.isDigit (rest.takeWhile fun c => !isMark c)
    let exponent ← exponent? (rest.dropWhile fun c => !isMark c)
    return '.' :: part ++ exponent
  | c :: _ => if isMark c then exponent? t else none
  | [] => none

/-- A float as its numeral. -/
def float? (t : Text) : Option Numeral :=
  let (negative, body) := Numeral.sign t
  if body = "inf".toList then some (.infinity negative)
  else if body = "nan".toList then some .nan
  else do
    let isWhole := fun c => c.isDigit || c == '_'
    let whole ← decimal? (body.takeWhile isWhole)
    let tail ← floatTail? (body.dropWhile isWhole)
    Numeral.decimal? negative (whole ++ tail)

/-- A number of either sort. -/
def number? (t : Text) : Option Value :=
  ((integer? t).map Value.integer).or ((float? t).map Value.float)

end LineDispatch.Toml
