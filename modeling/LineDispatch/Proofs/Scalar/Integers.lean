import LineDispatch.Scalar
import LineDispatch.Proofs.Binary.Rounding

/-!
# Tokens that spell integers

An integer is written in decimal with a sign where it has to have one, with any
number of zeros in front of its digits and with blanks around the whole
(`SpellsInteger`).  Reading such a token at an integer kind never fails: the
blanks are trimmed, the digits are a numeral without fraction and exponent, and
the nearest double is cut to the range of the kind.  So a token stands for what its
integer alone decides, however it is spelled (`coerce_of_spellsInteger`).

That integer is `Binary.roundInt` cut to the range.  It is exact up to `2 ^ 53`, and
it is in order without any bound; the limits of a range are no exception, since the
least integer of each kind is a double, and the double next to the greatest is not
below it (`IntegerKind.greatest_le_roundInt`).
-/

namespace LineDispatch

open Binary

/-! ## Decimal spellings -/

/-- The signs that an integer is written with. -/
inductive SignOf : Text → Int → Prop
  | none {n : Int} (h : 0 ≤ n) : SignOf [] n
  | plus {n : Int} (h : 0 ≤ n) : SignOf ['+'] n
  | minus {n : Int} (h : n ≤ 0) : SignOf ['-'] n

/-- The digits of a number with zeros in front. -/
def zeroPadded (zeros n : Nat) : Text := List.replicate zeros '0' ++ Text.ofNat n

/-- Whether the token is the integer in decimal, with blanks around it or without. -/
def SpellsInteger (token : Text) (n : Int) : Prop :=
  ∃ (before sign after : Text) (zeros : Nat), before.isBlank = true ∧ after.isBlank = true ∧
    SignOf sign n ∧ token = before ++ (sign ++ zeroPadded zeros n.natAbs) ++ after

variable {zeros m : Nat} {n : Int} {sign token : Text} {c : Char}

theorem zeroPadded_ne_nil : zeroPadded zeros m ≠ [] := by
  intro h
  exact Nat.toDigits_ne_nil (List.append_eq_nil_iff.1 h).2

theorem isDigit_of_mem_zeroPadded (h : c ∈ zeroPadded zeros m) : c.isDigit = true := by
  rcases List.mem_append.1 h with hzero | hdigit
  · rw [List.eq_of_mem_replicate hzero]
    rfl
  · exact Nat.isDigit_of_mem_toDigits (by decide) (by decide) hdigit

theorem blank_of_isDigit (h : c.isDigit = true) : blank c = false := by
  have hrange : 48 ≤ c.toNat ∧ c.toNat ≤ 57 := by
    simpa [Char.isDigit, UInt32.le_iff_toNat_le] using h
  simp only [blank, Bool.or_eq_false_iff, Bool.and_eq_false_iff, decide_eq_false_iff_not,
    beq_eq_false_iff_ne]
  omega

/-- There is no blank in a sign with digits behind it. -/
theorem blank_of_mem_spelling (hsign : SignOf sign n) (h : c ∈ sign ++ zeroPadded zeros m) :
    blank c = false := by
  rcases List.mem_append.1 h with hsigned | hdigit
  · cases hsign with
    | none => cases hsigned
    | plus | minus =>
        rw [List.mem_singleton.1 hsigned]
        rfl
  · exact blank_of_isDigit (isDigit_of_mem_zeroPadded hdigit)

/-! ## The numeral of a spelling -/

namespace Numeral

variable {digits : Text} {negative : Bool}

theorem ofDigits_zeroPadded (zeros m : Nat) : ofDigits (zeroPadded zeros m) = m := by
  show Nat.ofDigitChars 10 (List.replicate zeros '0' ++ Nat.toDigits 10 m) 0 = m
  rw [Nat.ofDigitChars_append, Nat.ofDigitChars_replicate_zero, Nat.mul_zero,
    Nat.ofDigitChars_ten_toDigits]

/-- Digits by themselves are a numeral without fraction and exponent. -/
theorem decimal?_of_digits (hne : digits ≠ []) (h : ∀ c ∈ digits, c.isDigit = true) :
    decimal? negative digits = some (.decimal negative (ofDigits digits) 0) := by
  have hwhole : (digits ++ []).takeWhile (fun c : Char => c.isDigit) = digits ++ [] :=
    List.takeWhile_append_of_pos h
  have hrest : (digits ++ []).dropWhile (fun c : Char => c.isDigit) = [] :=
    List.dropWhile_append_of_pos h
  rw [List.append_nil] at hwhole hrest
  rw [decimal?, hwhole, hrest]
  simp [hne, exponent?]

theorem sign_of_digits (h : ∀ c ∈ digits, c.isDigit = true) :
    Numeral.sign digits = (false, digits) := by
  unfold Numeral.sign
  split
  · exact absurd (h '-' List.mem_cons_self) (by decide)
  · exact absurd (h '+' List.mem_cons_self) (by decide)
  · rfl

theorem parse_of_signOf (hsign : SignOf sign n) (hne : digits ≠ [])
    (h : ∀ c ∈ digits, c.isDigit = true) :
    ∃ negative, (if negative = true then n ≤ 0 else 0 ≤ n) ∧
      parse (sign ++ digits) = some (.decimal negative (ofDigits digits) 0) := by
  cases hsign with
  | none hn =>
      refine ⟨false, hn, ?_⟩
      rw [List.nil_append, parse, sign_of_digits h]
      simp only [decimal?_of_digits hne h, Option.some_or]
  | plus hn =>
      refine ⟨false, hn, ?_⟩
      show (decimal? false digits).or (word? false digits) = _
      rw [decimal?_of_digits hne h, Option.some_or]
  | minus hn =>
      refine ⟨true, hn, ?_⟩
      show (decimal? true digits).or (word? true digits) = _
      rw [decimal?_of_digits hne h, Option.some_or]

theorem toBinary_natural (negative : Bool) (m : Nat) :
    toBinary .double (.decimal negative m 0) = nearest .double negative m 1 := by
  have hexponent : max (BinaryFormat.double.minExponent - (m.log2 : Int) - 4)
      (min (BinaryFormat.double.maxExponent + BinaryFormat.double.precision + 1) 0) = .ofNat 0 := by
    show max (-1074 - (m.log2 : Int) - 4) (min (971 + (53 : Nat) + 1) 0) = (0 : Int)
    omega
  rw [toBinary, hexponent]
  show nearest .double negative (m * 1) 1 = _
  rw [Nat.mul_one]

end Numeral

theorem number?_of_spellsInteger (h : SpellsInteger token n) :
    ∃ negative, (if negative = true then n ≤ 0 else 0 ≤ n) ∧
      ScalarKind.number? token = some (nearest .double negative n.natAbs 1) := by
  obtain ⟨before, sign, after, zeros, hbefore, hafter, hsign, rfl⟩ := h
  have hdigits : ∀ c ∈ zeroPadded zeros n.natAbs, c.isDigit = true :=
    fun c => isDigit_of_mem_zeroPadded
  obtain ⟨negative, hn, hparse⟩ := Numeral.parse_of_signOf hsign zeroPadded_ne_nil hdigits
  refine ⟨negative, hn, ?_⟩
  rw [ScalarKind.number?, Text.trim_surrounded hbefore hafter, hparse, Option.map_some,
    Numeral.ofDigits_zeroPadded, Numeral.toBinary_natural]
  · exact fun c hc => blank_of_mem_spelling hsign (List.mem_of_mem_head? hc)
  · exact fun c hc => blank_of_mem_spelling hsign (List.mem_of_mem_getLast? hc)

/-! ## Integers of a kind -/

namespace IntegerKind

/-- The integer read as a double and cut to the range of the kind. -/
def narrowed (kind : IntegerKind) (n : Int) : Int := max kind.least (min kind.greatest (roundInt n))

theorem least_le_greatest (kind : IntegerKind) : kind.least ≤ kind.greatest := by
  cases kind <;> decide

theorem le_least (kind : IntegerKind) : -(2 ^ 64 : Nat) ≤ kind.least := by
  cases kind <;> decide

theorem greatest_le (kind : IntegerKind) : kind.greatest ≤ (2 ^ 64 : Nat) := by
  cases kind <;> decide

theorem roundInt_least (kind : IntegerKind) : roundInt kind.least = kind.least := by
  cases kind <;> decide +kernel

/-- The greatest integers of 64 bits are no doubles, and the next double is above them. -/
theorem greatest_le_roundInt (kind : IntegerKind) : kind.greatest ≤ roundInt kind.greatest := by
  cases kind <;> decide +kernel

theorem narrowed_mono (kind : IntegerKind) {n m : Int} (h : n ≤ m) :
    kind.narrowed n ≤ kind.narrowed m := by
  have hround : roundInt n ≤ roundInt m := roundInt_mono h
  unfold narrowed
  omega

theorem narrowed_of_le_least {kind : IntegerKind} (h : n ≤ kind.least) :
    kind.narrowed n = kind.least := by
  have hround : roundInt n ≤ roundInt kind.least := roundInt_mono h
  rw [roundInt_least] at hround
  unfold narrowed
  omega

theorem narrowed_of_greatest_le {kind : IntegerKind} (h : kind.greatest ≤ n) :
    kind.narrowed n = kind.greatest := by
  have hround : roundInt kind.greatest ≤ roundInt n := roundInt_mono h
  have hgreatest : kind.greatest ≤ roundInt kind.greatest := kind.greatest_le_roundInt
  have hrange : kind.least ≤ kind.greatest := kind.least_le_greatest
  unfold narrowed
  omega

end IntegerKind

theorem coerce_of_spellsInteger (kind : IntegerKind) (h : SpellsInteger token n) :
    (ScalarKind.integer kind).coerce token = .ok (.integer kind (kind.narrowed n)) := by
  obtain ⟨negative, hn, hnumber⟩ := number?_of_spellsInteger h
  have hround : signed negative (roundNat n.natAbs) = roundInt n := by
    cases negative with
    | true => exact (roundInt_of_nonpos hn).symm
    | false => exact (roundInt_of_nonneg hn).symm
  rw [ScalarKind.coerce, hnumber]
  dsimp only
  rw [truncate_nearest kind.least_le_greatest kind.le_least kind.greatest_le, hround]
  rfl

/-- At an integer kind every decimal spelling of an integer is read, all spellings of one integer
alike.  What is read is the integer itself, cut to the range of the kind, if it is at most `2 ^ 53`
in size; it keeps the order of all integers, and from the limits of the range on it is the limit. -/
theorem integer_outcome (kind : IntegerKind) :
    ∃ value : Int → Int,
      (∀ (token : Text) (n : Int), SpellsInteger token n →
        (ScalarKind.integer kind).coerce token = .ok (.integer kind (value n))) ∧
      (∀ n : Int, n.natAbs ≤ 2 ^ 53 → value n = max kind.least (min kind.greatest n)) ∧
      (∀ n m : Int, n ≤ m → value n ≤ value m) ∧
      (∀ n : Int, n ≤ kind.least → value n = kind.least) ∧
      ∀ n : Int, kind.greatest ≤ n → value n = kind.greatest := by
  refine ⟨kind.narrowed, fun token n h => coerce_of_spellsInteger kind h, fun n h => ?_,
    fun n m h => kind.narrowed_mono h, fun n h => IntegerKind.narrowed_of_le_least h,
    fun n h => IntegerKind.narrowed_of_greatest_le h⟩
  rw [IntegerKind.narrowed, roundInt_of_natAbs_le h]

/-- A byte with a sign, zeros and blanks, and two integers that are out of the range of bytes. -/
theorem integer_outcome_byte :
    SpellsInteger " +007\t" 7 ∧ SpellsInteger "-300" (-300) ∧ SpellsInteger "0128" 128 ∧
      (ScalarKind.integer .i8).coerce " +007\t" = .ok (.integer .i8 7) ∧
      (ScalarKind.integer .i8).coerce "-300" = .ok (.integer .i8 (-128)) ∧
      (ScalarKind.integer .i8).coerce "0128" = .ok (.integer .i8 127) := by
  have hseven : SpellsInteger " +007\t" 7 :=
    ⟨" ", "+", "\t", 2, rfl, rfl, .plus (by decide), by decide +kernel⟩
  have hless : SpellsInteger "-300" (-300) :=
    ⟨"", "-", "", 0, rfl, rfl, .minus (by decide), by decide +kernel⟩
  have hmore : SpellsInteger "0128" 128 :=
    ⟨"", "", "", 1, rfl, rfl, .none (by decide), by decide +kernel⟩
  obtain ⟨value, hcoerce, hexact, hmono, hleast, hgreatest⟩ := integer_outcome .i8
  refine ⟨hseven, hless, hmore, ?_, ?_, ?_⟩
  · rw [hcoerce _ 7 hseven, hexact 7 (by decide)]
    rfl
  · rw [hcoerce _ (-300) hless, hleast (-300) (by decide)]
    rfl
  · rw [hcoerce _ 128 hmore, hgreatest 128 (by decide)]
    rfl

end LineDispatch
