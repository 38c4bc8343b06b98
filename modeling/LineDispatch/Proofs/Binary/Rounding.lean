import Mathlib.Algebra.Group.Nat.Defs
import LineDispatch.Binary

/-!
# Integers as doubles

A double keeps the 53 leading bits of a natural number: it is the number rounded
to the multiples of the value of the last bit kept (`Binary.unit`), which is one
for every number below `2 ^ 53`.  Rounding to the multiples of one unit keeps the
order and changes no multiple (`roundTo_mono`, `roundTo_mul`).

The unit grows with the number, so this is not enough to compare two numbers.  But
between two numbers with different leading bits there is a power of two, and that is
a multiple of either unit: rounding goes past no power of two
(`two_pow_log2_le_roundNat`, `roundNat_le`), and so keeps the order of all numbers
(`roundNat_mono`).

`Binary.nearest` gives the significand and the exponent of this number, or an
infinity where it is out of the range of the format; either way what comes out
narrowed to a range of integers of at most 64 bits is `roundNat` cut to that range
(`truncate_nearest`).
-/

namespace LineDispatch.Binary

variable {n m d k v : Nat} {negative : Bool}

/-! ## Rounding to the multiples of a unit -/

theorem divNearestEven_mono (d : Nat) (h : n ≤ m) : divNearestEven n d ≤ divNearestEven m d := by
  have hn : d * (n / d) + n % d = n := Nat.div_add_mod n d
  have hm : d * (m / d) + m % d = m := Nat.div_add_mod m d
  unfold divNearestEven
  dsimp only
  rcases Nat.lt_or_eq_of_le (Nat.div_le_div_right h : n / d ≤ m / d) with hlt | heq
  · split <;> split <;> omega
  -- With the same quotient it is the remainders that are in order.
  · rw [heq] at hn ⊢
    split <;> split <;> omega

/-- The multiple of `d` nearest to `n`. -/
def roundTo (d n : Nat) : Nat := divNearestEven n d * d

theorem roundTo_mono (d : Nat) (h : n ≤ m) : roundTo d n ≤ roundTo d m :=
  Nat.mul_le_mul_right d (divNearestEven_mono d h)

theorem roundTo_mul (hd : 0 < d) (c : Nat) : roundTo d (c * d) = c * d := by
  have hrest : c * d % d = 0 := Nat.mul_mod_left c d
  have hquotient : c * d / d = c := Nat.mul_div_cancel c hd
  rw [roundTo, divNearestEven, hrest, hquotient]
  simp [hd]

/-! ## Rounding to 53 bits -/

/-- The value of the last bit of a double of the size of `n`. -/
def unit (n : Nat) : Nat := Nat.pow 2 (n.log2 - 52)

/-- The natural number nearest to `n` among those that are doubles but for their size. -/
def roundNat (n : Nat) : Nat := roundTo (unit n) n

theorem unit_pos : 0 < unit n := Nat.two_pow_pos _

theorem unit_eq_one (h : n < 2 ^ 53) : unit n = 1 := by
  have hlog : n.log2 ≤ 52 := by
    by_cases hn : n = 0
    · simp [hn]
    · have hlt : n.log2 < 53 := (Nat.log2_lt hn).2 h
      omega
  rw [unit, Nat.sub_eq_zero_of_le hlog]

theorem roundTo_unit_two_pow (h : n.log2 - 52 ≤ k) : roundTo (unit n) (2 ^ k) = 2 ^ k := by
  obtain ⟨c, rfl⟩ := Nat.exists_eq_add_of_le h
  rw [Nat.pow_add, Nat.mul_comm]
  exact roundTo_mul unit_pos _

theorem roundNat_two_pow (k : Nat) : roundNat (2 ^ k) = 2 ^ k := by
  apply roundTo_unit_two_pow
  rw [Nat.log2_two_pow]
  omega

/-- A number of at most 53 bits is a double. -/
theorem roundNat_of_le (h : n ≤ 2 ^ 53) : roundNat n = n := by
  rcases Nat.lt_or_eq_of_le h with hlt | rfl
  · have hexact : roundTo 1 (n * 1) = n * 1 := roundTo_mul Nat.one_pos n
    rw [roundNat, unit_eq_one hlt, ← Nat.mul_one n, hexact]
  · exact roundNat_two_pow 53

theorem two_pow_log2_le_roundNat (hn : n ≠ 0) : 2 ^ n.log2 ≤ roundNat n := by
  rw [← roundTo_unit_two_pow (n := n) (k := n.log2) (by omega)]
  exact roundTo_mono _ (Nat.log2_self_le hn)

theorem roundNat_le (n : Nat) : roundNat n ≤ 2 ^ (n.log2 + 1) := by
  rw [← roundTo_unit_two_pow (n := n) (k := n.log2 + 1) (by omega)]
  exact roundTo_mono _ (Nat.le_of_lt Nat.lt_log2_self)

theorem roundNat_mono (h : n ≤ m) : roundNat n ≤ roundNat m := by
  by_cases hn : n = 0
  · rw [hn, roundNat_of_le (Nat.zero_le _)]
    exact Nat.zero_le _
  have hm : m ≠ 0 := by omega
  have hlog : n.log2 ≤ m.log2 := (Nat.le_log2 hm).2 (Nat.le_trans (Nat.log2_self_le hn) h)
  rcases Nat.lt_or_eq_of_le hlog with hlt | heq
  · calc roundNat n ≤ 2 ^ (n.log2 + 1) := roundNat_le n
      _ ≤ 2 ^ m.log2 := Nat.pow_le_pow_right Nat.two_pos hlt
      _ ≤ roundNat m := two_pow_log2_le_roundNat hm
  · have hunit : unit n = unit m := by rw [unit, unit, heq]
    rw [roundNat, hunit]
    exact roundTo_mono _ h

/-! ## Integers -/

/-- The number with a sign. -/
def signed (negative : Bool) (n : Nat) : Int := if negative then -(n : Int) else n

/-- The integer nearest to `n` among those that are doubles but for their size. -/
def roundInt (n : Int) : Int := signed (decide (n < 0)) (roundNat n.natAbs)

theorem roundInt_of_nonneg {n : Int} (h : 0 ≤ n) : roundInt n = roundNat n.natAbs := by
  rw [roundInt, decide_eq_false (by omega)]
  rfl

theorem roundInt_of_nonpos {n : Int} (h : n ≤ 0) : roundInt n = -(roundNat n.natAbs : Int) := by
  rcases Int.lt_or_eq_of_le h with hlt | rfl
  · rw [roundInt, decide_eq_true hlt]
    rfl
  · rfl

theorem roundInt_of_natAbs_le {n : Int} (h : n.natAbs ≤ 2 ^ 53) : roundInt n = n := by
  rcases Int.le_total 0 n with hn | hn
  · rw [roundInt_of_nonneg hn, roundNat_of_le h]
    omega
  · rw [roundInt_of_nonpos hn, roundNat_of_le h]
    omega

theorem roundInt_mono {n m : Int} (h : n ≤ m) : roundInt n ≤ roundInt m := by
  rcases Int.le_total 0 n with hn | hn
  · have habs : roundNat n.natAbs ≤ roundNat m.natAbs := roundNat_mono (by omega)
    rw [roundInt_of_nonneg hn, roundInt_of_nonneg (Int.le_trans hn h)]
    omega
  · rcases Int.le_total 0 m with hm | hm
    · rw [roundInt_of_nonpos hn, roundInt_of_nonneg hm]
      omega
    · have habs : roundNat m.natAbs ≤ roundNat n.natAbs := roundNat_mono (by omega)
      rw [roundInt_of_nonpos hn, roundInt_of_nonpos hm]
      omega

/-! ## The nearest double -/

/-- What a double stands for among the integers: its integer part without the sign is `v`, or it is
infinite and `v` is out of the range of doubles. -/
inductive StandsFor (negative : Bool) (v : Nat) : Binary → Prop
  | finite {m : Nat} {e : Int} (h : (fraction m e).1 / (fraction m e).2 = v) :
    StandsFor negative v (.finite negative m e)
  | infinite {k : Nat} (hk : 1024 ≤ k) (h : 2 ^ k ≤ v) : StandsFor negative v (.infinite negative)

theorem divNearestEven_one (n : Nat) : divNearestEven n 1 = n := by
  simp [divNearestEven, Nat.mod_one]

theorem leadingExponent_one (hn : n ≠ 0) : leadingExponent n 1 = n.log2 := by
  have hlog : (n.log2 : Int) - (Nat.log2 1 : Nat) = .ofNat n.log2 := Int.sub_zero _
  have hle : 1 * Nat.pow 2 n.log2 ≤ n := by
    rw [Nat.one_mul]
    exact Nat.log2_self_le hn
  unfold leadingExponent
  rw [hlog]
  exact if_pos hle

/-- A rounded significand, which can have become one bit too long, with its exponent. -/
def carried (negative : Bool) (m : Nat) (e : Int) : Binary :=
  if m = Nat.pow 2 53 then bounded .double negative (m / 2) (e + 1)
  else bounded .double negative m e

theorem nearest_eq_carried (hn : n ≠ 0) :
    nearest .double negative n 1 =
      carried negative (divNearestEven (scaled n 1 (n.log2 - 52)).1 (scaled n 1 (n.log2 - 52)).2)
        (n.log2 - 52) := by
  have hexponent : max BinaryFormat.double.minExponent
      (leadingExponent n 1 - ((BinaryFormat.double.precision : Int) - 1)) = n.log2 - 52 := by
    rw [leadingExponent_one hn]
    show max (-1074) ((n.log2 : Int) - (53 - 1)) = n.log2 - 52
    omega
  rw [nearest, if_neg hn, hexponent]
  rfl

theorem standsFor_bounded (hm : 2 ^ 52 ≤ m) (k : Nat) :
    StandsFor negative (m * 2 ^ k) (bounded .double negative m k) := by
  unfold bounded
  split
  · rename_i hgreat
    have hk : 971 < k := Int.ofNat_lt.1 hgreat
    apply StandsFor.infinite (k := 52 + k) (by omega)
    rw [Nat.pow_add]
    exact Nat.mul_le_mul_right _ hm
  · apply StandsFor.finite
    exact Nat.div_one _

theorem standsFor_carried (hm : 2 ^ 52 ≤ m) (k : Nat) :
    StandsFor negative (m * 2 ^ k) (carried negative m k) := by
  unfold carried
  split
  · rename_i hcarry
    have hhalf : m * 2 ^ k = m / 2 * 2 ^ (k + 1) := by
      subst hcarry
      rw [Nat.pow_succ, Nat.mul_comm (2 ^ k) 2, ← Nat.mul_assoc]
    rw [hhalf]
    apply standsFor_bounded
    subst hcarry
    exact Nat.le_refl _
  · exact standsFor_bounded hm k

theorem standsFor_nearest (negative : Bool) (n : Nat) :
    StandsFor negative (roundNat n) (nearest .double negative n 1) := by
  by_cases hn : n = 0
  · subst hn
    exact .finite (by decide +kernel)
  rw [nearest_eq_carried hn]
  rcases Nat.lt_or_ge n.log2 52 with hlt | hge
  -- All bits are kept: the significand is the number with zeros behind it.
  · obtain ⟨j, hj⟩ : ∃ j, 52 = n.log2 + (j + 1) := ⟨51 - n.log2, by omega⟩
    have hexponent : (n.log2 : Int) - 52 = .negSucc j := by omega
    have hshort : n * 2 ^ (j + 1) < 2 ^ 53 := by
      calc n * 2 ^ (j + 1) < 2 ^ (n.log2 + 1) * 2 ^ (j + 1) :=
            Nat.mul_lt_mul_of_pos_right Nat.lt_log2_self (Nat.two_pow_pos _)
        _ = 2 ^ 53 := by rw [← Nat.pow_add]; congr 1; omega
    have hexact : roundNat n = n := by
      apply roundNat_of_le
      apply Nat.le_of_lt
      exact Nat.lt_of_le_of_lt (Nat.le_mul_of_pos_right n (Nat.two_pow_pos _)) hshort
    have hcarry : n * 2 ^ (j + 1) ≠ Nat.pow 2 53 := Nat.ne_of_lt hshort
    rw [hexponent, hexact]
    show StandsFor negative n (carried negative (divNearestEven (n * 2 ^ (j + 1)) 1) (.negSucc j))
    rw [divNearestEven_one, carried, if_neg hcarry, bounded, if_neg]
    · apply StandsFor.finite
      exact Nat.mul_div_cancel n (Nat.two_pow_pos _)
    · show ¬ (971 : Int) < .negSucc j
      omega
  -- The bits behind the first 53 are rounded off.
  · have hexponent : (n.log2 : Int) - 52 = .ofNat (n.log2 - 52) := by
      rw [Int.ofNat_eq_natCast, Int.ofNat_sub hge]
      rfl
    have hlong : 2 ^ 52 ≤ divNearestEven n (unit n) := by
      apply Nat.le_of_mul_le_mul_right _ (unit_pos (n := n))
      calc 2 ^ 52 * unit n = 2 ^ n.log2 := by
            rw [unit, Nat.pow_eq, ← Nat.pow_add, Nat.add_sub_cancel' hge]
        _ ≤ roundNat n := two_pow_log2_le_roundNat hn
    rw [hexponent]
    show StandsFor negative _
      (carried negative (divNearestEven n (1 * unit n)) (n.log2 - 52 : Nat))
    rw [Nat.one_mul]
    exact standsFor_carried hlong _

theorem truncate_of_standsFor {x : Binary} (h : StandsFor negative v x) {lo hi : Int}
    (hle : lo ≤ hi) (hlo : -(2 ^ 64 : Nat) ≤ lo) (hhi : hi ≤ (2 ^ 64 : Nat)) :
    x.truncate lo hi = max lo (min hi (signed negative v)) := by
  cases h with
  | finite h =>
      rw [← h]
      rfl
  | @infinite k hk h =>
      have hgreat : 2 ^ 64 ≤ v := Nat.le_trans (Nat.pow_le_pow_right Nat.two_pos (by omega)) h
      cases negative with
      | true =>
          show lo = max lo (min hi (-(v : Int)))
          omega
      | false =>
          show hi = max lo (min hi (v : Int))
          omega

/-- An integer of either sign read as a double and narrowed to a range is the integer nearest to it
that has 53 bits, cut to the range. -/
theorem truncate_nearest {lo hi : Int} (hle : lo ≤ hi) (hlo : -(2 ^ 64 : Nat) ≤ lo)
    (hhi : hi ≤ (2 ^ 64 : Nat)) (negative : Bool) (n : Nat) :
    (nearest .double negative n 1).truncate lo hi =
      max lo (min hi (signed negative (roundNat n))) :=
  truncate_of_standsFor (standsFor_nearest negative n) hle hlo hhi

end LineDispatch.Binary
