import LineDispatch.Binary
import LineDispatch.Text

/-!
# The shortest decimal of a floating-point number

A finite number is written with the fewest digits that read back as the same
number, and of those the nearest to it; of two equally near the one further
from zero.  The digits are found on ever finer decimal grids: on each, the two
neighbours of the number are tried against the interval of what rounds to it.
The text is positional whatever the size, without a point when the number is
whole.
-/

namespace LineDispatch.Binary

/-- The interval of the fractions that round to a number, over a common denominator: the number
itself, the ends, and whether the ends belong to it. -/
structure Rounds where
  value : Nat
  low : Nat
  high : Nat
  den : Nat
  inclusive : Bool

/-- What rounds to `m * 2 ^ e`: half a unit to each side, and below the least significand of a
binade half of the smaller unit there.  The ends tie, so they belong to an even significand. -/
def rounds (f : BinaryFormat) (m : Nat) (e : Int) : Rounds :=
  let below := if m = Nat.pow 2 (f.precision - 1) ∧ f.minExponent < e then 1 else 2
  let (unit, den) := fraction 1 (e - 2)
  ⟨4 * m * unit, (4 * m - below) * unit, (4 * m + 2) * unit, den, m % 2 = 0⟩

namespace Rounds

/-- Whether the decimal `d * 10 ^ k` lies in the interval. -/
def holds (r : Rounds) (d : Nat) (k : Int) : Bool :=
  let (n, q) := match k with
    | .ofNat j => (d * Nat.pow 10 j * r.den, 1)
    | .negSucc j => (d * r.den, Nat.pow 10 (j + 1))
  if r.inclusive then decide (r.low * q ≤ n ∧ n ≤ r.high * q)
  else decide (r.low * q < n ∧ n < r.high * q)

/-- The value in units of `10 ^ k`, as a fraction. -/
def inUnits (r : Rounds) : Int → Nat × Nat
  | .ofNat j => (r.value, r.den * Nat.pow 10 j)
  | .negSucc j => (r.value * Nat.pow 10 (j + 1), r.den)

/-- The exponent of the leading decimal digit of the value. -/
def leadingDigit (r : Rounds) : Int :=
  if r.den ≤ r.value then ((Nat.toDigits 10 (r.value / r.den)).length : Int) - 1
  else
    let l := (Nat.toDigits 10 (r.den / r.value)).length
    if r.den ≤ r.value * Nat.pow 10 (l - 1) then -((l : Int) - 1) else -(l : Int)

/-- The neighbour of the value on the grid of `10 ^ k` that lies in the interval, the nearer if
both do. -/
def onGrid (r : Rounds) (k : Int) : Option Nat :=
  let (n, d) := r.inUnits k
  let down := n / d
  let nearerUp := d ≤ 2 * (n % d)
  match r.holds down k, r.holds (down + 1) k with
  | true, true => some (if nearerUp then down + 1 else down)
  | true, false => some down
  | false, true => some (down + 1)
  | false, false => none

/-- The first decimal found on the grids from `10 ^ k` down, at most `grids` of them. -/
def search (r : Rounds) : Nat → Int → Nat × Int
  | 0, k => let (n, d) := r.inUnits k; (n / d, k)
  | grids + 1, k =>
    match r.onGrid k with
    | some d => (d, k)
    | none => search r grids (k - 1)

end Rounds

/-- The shortest decimal `d * 10 ^ k` that rounds to `m * 2 ^ e`.  A grid finer than the interval
is reached after as many digits as the precision has bits. -/
def shortest (f : BinaryFormat) (m : Nat) (e : Int) : Nat × Int :=
  let r := rounds f m e
  r.search (f.precision + 1) r.leadingDigit

/-- The decimal `d * 10 ^ k` written out, without a point or zeros that it can do without. -/
def positional (d : Nat) : Int → Text
  | .ofNat k => Text.ofNat (d * Nat.pow 10 k)
  | .negSucc k =>
    let scale := Nat.pow 10 (k + 1)
    let digits := Text.ofNat (d % scale)
    let part := List.replicate (k + 1 - digits.length) '0' ++ digits
    match Text.dropTrailing (· == '0') part with
    | [] => Text.ofNat (d / scale)
    | part => Text.ofNat (d / scale) ++ '.' :: part

/-- The text of a number. -/
def text (f : BinaryFormat) : Binary → Text
  | .nan => "NaN"
  | .infinite negative => if negative then "-inf" else "inf"
  | .finite negative m e =>
    let unsigned : Text := if m = 0 then "0" else
      let (d, k) := shortest f m e
      positional d k
    if negative then '-' :: unsigned else unsigned

end LineDispatch.Binary
