/-!
# Binary floating-point numbers

A number of a binary format is an integer significand times a power of two,
with a sign that zero has too, or an infinity, or no number at all.  Every
operation works out its exact result as a fraction and rounds once, to the
nearest number of the format, a tie going to the even significand.
-/

namespace LineDispatch

/-- A binary format: the bits of a significand, and the least and the greatest exponent that a
significand is scaled by. -/
structure BinaryFormat where
  precision : Nat
  minExponent : Int
  maxExponent : Int
deriving DecidableEq, Repr

namespace BinaryFormat

/-- Numbers of 64 bits. -/
def double : BinaryFormat := ⟨53, -1074, 971⟩

/-- Numbers of 32 bits. -/
def single : BinaryFormat := ⟨24, -149, 104⟩

end BinaryFormat

/-- A floating-point number.  `finite negative m e` is `m * 2 ^ e` with its sign; each finite
number of a format has one form, in which `m` is as large as precision and least exponent let. -/
inductive Binary
  | nan
  | infinite (negative : Bool)
  | finite (negative : Bool) (significand : Nat) (exponent : Int)
deriving DecidableEq, Repr

namespace Binary

/-- Zero with a sign. -/
def zero (f : BinaryFormat) (negative : Bool) : Binary := .finite negative 0 f.minExponent

/-- Whether the number is a zero of either sign. -/
def isZero : Binary → Bool
  | .finite _ 0 _ => true
  | _ => false

/-! ## Rounding -/

/-- The fraction `num / den` divided by `2 ^ e`. -/
def scaled (num den : Nat) : Int → Nat × Nat
  | .ofNat k => (num, den * Nat.pow 2 k)
  | .negSucc k => (num * Nat.pow 2 (k + 1), den)

/-- The integer nearest to `n / d`, the even one of two. -/
def divNearestEven (n d : Nat) : Nat :=
  let q := n / d
  let r := n % d
  if 2 * r < d ∨ (2 * r = d ∧ q % 2 = 0) then q else q + 1

/-- The exponent of the leading bit of the positive fraction `num / den`. -/
def leadingExponent (num den : Nat) : Int :=
  let k : Int := (num.log2 : Int) - den.log2
  let (n, d) := scaled num den k
  if d ≤ n then k else k - 1

/-- A significand of at most the format's precision, or infinity if its exponent is too great. -/
def bounded (f : BinaryFormat) (negative : Bool) (m : Nat) (e : Int) : Binary :=
  if f.maxExponent < e then .infinite negative else .finite negative m e

/-- The number of the format nearest to `num / den`, with the given sign. -/
def nearest (f : BinaryFormat) (negative : Bool) (num den : Nat) : Binary :=
  if num = 0 then zero f negative
  else
    let e := max f.minExponent (leadingExponent num den - ((f.precision : Int) - 1))
    let (n, d) := scaled num den e
    let m := divNearestEven n d
    if m = Nat.pow 2 f.precision then bounded f negative (m / 2) (e + 1)
    else bounded f negative m e

/-- The fraction `m * 2 ^ e`. -/
def fraction (m : Nat) : Int → Nat × Nat
  | .ofNat k => (m * Nat.pow 2 k, 1)
  | .negSucc k => (m, Nat.pow 2 (k + 1))

/-- The number of the format nearest to `m * 2 ^ e`, with the given sign. -/
def ofScaled (f : BinaryFormat) (negative : Bool) (m : Nat) (e : Int) : Binary :=
  let (n, d) := fraction m e
  nearest f negative n d

/-- The same number in another format, rounded to it. -/
def convert (f : BinaryFormat) : Binary → Binary
  | .nan => .nan
  | .infinite negative => .infinite negative
  | .finite negative m e => ofScaled f negative m e

/-- The integer part, kept within `lo` and `hi`; what is no number gives zero. -/
def truncate (lo hi : Int) : Binary → Int
  | .nan => 0
  | .infinite negative => if negative then lo else hi
  | .finite negative m e =>
    let (n, d) := fraction m e
    let i : Int := (n / d : Nat)
    max lo (min hi (if negative then -i else i))

/-! ## Arithmetic -/

/-- The significand with its sign, in units smaller by the factor `2 ^ k`. -/
def aligned (negative : Bool) (m k : Nat) : Int :=
  let scaled := m * Nat.pow 2 k
  if negative then -(scaled : Int) else scaled

/-- The number opposite in sign. -/
def neg : Binary → Binary
  | .nan => .nan
  | .infinite s => .infinite (!s)
  | .finite s m e => .finite (!s) m e

/-- The sum.  Opposite numbers give the positive zero, and so do zeros of unlike signs. -/
def add (f : BinaryFormat) : Binary → Binary → Binary
  | .nan, _ => .nan
  | _, .nan => .nan
  | .infinite s, .infinite t => if s = t then .infinite s else .nan
  | .infinite s, .finite .. => .infinite s
  | .finite .., .infinite t => .infinite t
  | .finite s m e, .finite t n k =>
    let low := min e k
    let sum := aligned s m (e - low).toNat + aligned t n (k - low).toNat
    if sum = 0 then zero f (s && t && m == 0 && n == 0)
    else ofScaled f (decide (sum < 0)) sum.natAbs low

/-- The difference. -/
def sub (f : BinaryFormat) (x y : Binary) : Binary := add f x (neg y)

/-- The product. -/
def mul (f : BinaryFormat) : Binary → Binary → Binary
  | .nan, _ => .nan
  | _, .nan => .nan
  | .infinite s, .infinite t => .infinite (s != t)
  | .infinite s, .finite t n _ => if n = 0 then .nan else .infinite (s != t)
  | .finite s m _, .infinite t => if m = 0 then .nan else .infinite (s != t)
  | .finite s m e, .finite t n k => ofScaled f (s != t) (m * n) (e + k)

/-- The quotient. -/
def div (f : BinaryFormat) : Binary → Binary → Binary
  | .nan, _ => .nan
  | _, .nan => .nan
  | .infinite _, .infinite _ => .nan
  | .infinite s, .finite t _ _ => .infinite (s != t)
  | .finite s _ _, .infinite t => zero f (s != t)
  | .finite s m e, .finite t n k =>
    if n = 0 then if m = 0 then .nan else .infinite (s != t)
    else
      let (a, b) := fraction m (e - k)
      nearest f (s != t) a (b * n)

/-- The greatest integer whose square is at most `n`. -/
def squareRoot (n : Nat) : Nat :=
  if h : n = 0 then 0
  else
    have : n / 4 < n := Nat.div_lt_self (Nat.pos_of_ne_zero h) (by decide)
    let r := 2 * squareRoot (n / 4)
    if (r + 1) * (r + 1) ≤ n then r + 1 else r

/-- The number nearest to the square root of `s * 4 ^ e`.  The root is taken with two bits more
than the precision, and a remainder is told from an exact root by half of the last of them. -/
def nearestRoot (f : BinaryFormat) (s : Nat) (e : Int) : Binary :=
  let extra := f.precision + 2
  let square := s * Nat.pow 4 extra
  let root := squareRoot square
  let rest := if root * root = square then 0 else 1
  ofScaled f false (2 * root + rest) (e - extra - 1)

/-- The square root of a number without its sign. -/
def sqrt (f : BinaryFormat) : Binary → Binary
  | .nan => .nan
  | .infinite _ => .infinite false
  | .finite _ m e => nearestRoot f (m * Nat.pow 2 (e % 2).toNat) (e / 2)

/-! ## Order -/

/-- Whether one number is at most another.  Zeros of unlike signs are equal, and what is no number
is not compared. -/
def atMost : Binary → Binary → Bool
  | .nan, _ => false
  | _, .nan => false
  | .infinite s, y => s || y == .infinite false
  | .finite .., .infinite t => !t
  | .finite s m e, .finite t n k =>
    let low := min e k
    aligned s m (e - low).toNat ≤ aligned t n (k - low).toNat

/-- The number without its sign. -/
def abs : Binary → Binary
  | .nan => .nan
  | .infinite _ => .infinite false
  | .finite _ m e => .finite false m e

end Binary

end LineDispatch
