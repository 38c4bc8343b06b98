import LineDispatch.Binary

/-!
# The hypotenuse

The length of the hypotenuse over two sides, in doubles.  The square root `h`
of the rounded sum of squares can be wrong in its last bit; a step of Newton's
method, `h - (h² - a² - b²) / (2h)`, sets it right but for a pair of sides in a
few hundred.  The excess `h² - a² - b²` is worked out from the differences of
`h` and the sides, which are small where the squares are large.  Sides whose
squares a double cannot hold are scaled by a power of two first, and a side so
short that it does not count is merely added.
-/

namespace LineDispatch.Binary

namespace Hypotenuse

/-- A power of two. -/
def power (e : Int) : Binary := ofScaled .double false 1 e

/-- The excess of `h²` over `a² + b²`, for sides with `b ≤ a`. -/
def excess (h a b : Binary) : Binary :=
  let add := add .double
  let sub := sub .double
  let mul := mul .double
  let two := power 1
  let four := power 2
  if h.atMost (mul two b) then
    let d := sub h b
    add (mul a (sub (mul two d) a)) (mul (sub d (mul two (sub a b))) d)
  else
    let d := sub h a
    add (mul (mul two d) (sub a (mul two b)))
      (add (mul (sub (mul four d) b) b) (mul d d))

/-- The length over two sides whose squares are doubles, the greater first: the root, corrected
once. -/
def corrected (a b : Binary) : Binary :=
  let h := sqrt .double (add .double (mul .double a a) (mul .double b b))
  sub .double h (div .double (excess h a b) (mul .double (power 1) h))

/-- Whether a side is so short beside the greater one that it does not count. -/
def isNegligible (a b : Binary) : Bool := (mul .double b (power 54)).atMost a

/-- The length over two sides, the greater first and neither below zero. -/
def ofOrdered (a b : Binary) : Binary :=
  if isNegligible a b then add .double a b
  else if !a.atMost (power 511) then
    div .double (corrected (mul .double a (power (-600))) (mul .double b (power (-600))))
      (power (-600))
  else if !(power (-459)).atMost b then
    mul .double (corrected (mul .double a (power 600)) (mul .double b (power 600))) (power (-600))
  else corrected a b

end Hypotenuse

/-- The length of the hypotenuse over two sides, in doubles.  An infinite side wins over one that is
no number. -/
def hypotenuse (x y : Binary) : Binary :=
  match x.abs, y.abs with
  | .infinite _, _ => .infinite false
  | _, .infinite _ => .infinite false
  | .nan, _ => .nan
  | _, .nan => .nan
  | a, b => if b.atMost a then Hypotenuse.ofOrdered a b else Hypotenuse.ofOrdered b a

end LineDispatch.Binary
