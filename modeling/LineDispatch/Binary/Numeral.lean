import LineDispatch.Binary
import LineDispatch.Text

/-!
# Numerals

The decimal texts that stand for numbers: an optional sign, then digits with
at most one point among, before or after them and an optional exponent, or a
word for infinity or for what is no number.  A numeral is read exactly and
rounded once to a binary format.
-/

namespace LineDispatch

/-- What a numeral stands for; `decimal negative m x` is `m * 10 ^ x` with its sign. -/
inductive Numeral
  | nan
  | infinity (negative : Bool)
  | decimal (negative : Bool) (mantissa : Nat) (exponent : Int)
deriving DecidableEq, Repr

namespace Numeral

/-- The number that decimal digits stand for. -/
def ofDigits (digits : Text) : Nat :=
  digits.foldl (fun n c => 10 * n + (c.toNat - '0'.toNat)) 0

/-- An optional sign: whether it is a minus, and what follows it. -/
def sign : Text → Bool × Text
  | '-' :: rest => (true, rest)
  | '+' :: rest => (false, rest)
  | t => (false, t)

/-- An exponent up to the end of the text; no exponent counts as zero. -/
def exponent? : Text → Option Int
  | [] => some 0
  | c :: rest =>
    if c = 'e' ∨ c = 'E' then
      let (negative, digits) := sign rest
      if digits ≠ [] ∧ digits.all (·.isDigit) then
        some (if negative then -(ofDigits digits : Int) else ofDigits digits)
      else none
    else none

/-- Digits, with a point or without, and an exponent. -/
def decimal? (negative : Bool) (t : Text) : Option Numeral :=
  let whole := t.takeWhile (·.isDigit)
  let after := t.dropWhile (·.isDigit)
  let (part, tail) := match after with
    | '.' :: rest => (rest.takeWhile (·.isDigit), rest.dropWhile (·.isDigit))
    | rest => ([], rest)
  if whole = [] ∧ part = [] then none
  else (exponent? tail).map fun x =>
    .decimal negative (ofDigits (whole ++ part)) (x - part.length)

/-- A word in place of digits, in letters of either case. -/
def word? (negative : Bool) (t : Text) : Option Numeral :=
  let word := t.map Char.toLower
  if word = "inf".toList ∨ word = "infinity".toList then some (.infinity negative)
  else if word = "nan".toList then some .nan
  else none

/-- Reads a numeral that is all of the text. -/
def parse (t : Text) : Option Numeral :=
  let (negative, body) := sign t
  (decimal? negative body).or (word? negative body)

/-- The number of the format nearest to the numeral.  An exponent so great or so small that the
result is infinite or zero whatever its size is cut to the last such. -/
def toBinary (f : BinaryFormat) : Numeral → Binary
  | .nan => .nan
  | .infinity negative => .infinite negative
  | .decimal negative m x =>
    let lowest := f.minExponent - m.log2 - 4
    let highest := f.maxExponent + f.precision + 1
    match max lowest (min highest x) with
    | .ofNat k => .nearest f negative (m * Nat.pow 10 k) 1
    | .negSucc k => .nearest f negative m (Nat.pow 10 (k + 1))

end Numeral

end LineDispatch
