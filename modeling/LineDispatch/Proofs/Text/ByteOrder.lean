import Mathlib.Tactic.SplitIfs
import LineDispatch.Table
import LineDispatch.Text.Utf8

/-!
# The order of texts is that of their bytes

Texts are ordered by the code points of their characters, one after the other.
UTF-8 keeps this order: two texts compare as their bytes do
(`Utf8.encode_lt_encode_iff`), so that a list that is sorted as texts is sorted
byte by byte.

The bytes of the smaller of two characters are smaller from their own bytes on,
whatever follows (`encodeChar_append_lt`).  A character with more bytes has a
greater first byte (`cons_ofNat_lt`), and the bytes of characters with equally
many are the digits of their code points at base 64, of which the last decides
only where those before it are equal (`append_digit_lt`).
-/

namespace LineDispatch.Utf8

theorem cons_ofNat_lt {a b : Nat} (h : a < b) (hb : b < 256) (s t : List UInt8) :
    UInt8.ofNat a :: s < UInt8.ofNat b :: t := by
  refine List.cons_lt_cons_iff.2 (.inl ?_)
  rw [UInt8.lt_iff_toNat_lt, UInt8.toNat_ofNat', UInt8.toNat_ofNat']
  omega

/-- The bytes `f` of all digits but the last keep the order with that of the last behind them. -/
theorem append_digit_lt (f : Nat → List UInt8) {v w : Nat} (h : v < w)
    (hf : v / 64 < w / 64 → ∀ s t, f (v / 64) ++ s < f (w / 64) ++ t) (s t : List UInt8) :
    f (v / 64) ++ UInt8.ofNat (v % 64 + 128) :: s <
      f (w / 64) ++ UInt8.ofNat (w % 64 + 128) :: t := by
  rcases Nat.lt_or_ge (v / 64) (w / 64) with hlt | hge
  · exact hf hlt _ _
  · have heq : v / 64 = w / 64 := by omega
    rw [heq]
    exact List.append_left_lt (cons_ofNat_lt (by omega) (by omega) s t)

/-- The bytes of two different characters differ, and in the first place where they do the smaller
character has the smaller byte. -/
theorem encodeChar_append_lt {c d : Char} (h : c < d) (s t : List UInt8) :
    encodeChar c ++ s < encodeChar d ++ t := by
  have hlt : c.val.toNat < d.val.toNat := h
  have hmax : d.val.toNat < 0x110000 := by
    rcases d.valid with hd | hd
    · exact Nat.lt_trans hd (by decide)
    · exact hd.2
  have hdigits : ∀ n, n / 4096 = n / 64 / 64 ∧ n / 262144 = n / 64 / 64 / 64 := by omega
  simp only [encodeChar, String.utf8EncodeChar, (hdigits _).1, (hdigits _).2]
  generalize c.val.toNat = v at hlt
  generalize d.val.toNat = w at hlt hmax
  -- `d` has no fewer bytes than `c`, and the first bytes decide unless it has as many.
  split_ifs <;> try omega
  all_goals try exact cons_ofNat_lt (by omega) (by omega) _ _
  · exact append_digit_lt (fun n => [UInt8.ofNat (n % 32 + 192)]) hlt
      (fun _ => cons_ofNat_lt (by omega) (by omega)) s t
  · refine append_digit_lt
      (fun n => [UInt8.ofNat (n / 64 % 16 + 224), UInt8.ofNat (n % 64 + 128)]) hlt (fun h₁ => ?_) s t
    exact append_digit_lt (fun n => [UInt8.ofNat (n % 16 + 224)]) h₁
      (fun _ => cons_ofNat_lt (by omega) (by omega))
  · refine append_digit_lt (fun n => [UInt8.ofNat (n / 64 / 64 % 8 + 240),
      UInt8.ofNat (n / 64 % 64 + 128), UInt8.ofNat (n % 64 + 128)]) hlt (fun h₁ => ?_) s t
    refine append_digit_lt
      (fun n => [UInt8.ofNat (n / 64 % 8 + 240), UInt8.ofNat (n % 64 + 128)]) h₁ (fun h₂ => ?_)
    exact append_digit_lt (fun n => [UInt8.ofNat (n % 8 + 240)]) h₂
      (fun _ => cons_ofNat_lt (by omega) (by omega))

theorem encode_cons (c : Char) (t : Text) : encode (c :: t) = encodeChar c ++ encode t := rfl

theorem encode_lt_encode {s t : Text} (h : s < t) : encode s < encode t := by
  induction h with
  | @nil c t =>
      obtain ⟨b, rest, hbytes⟩ := List.exists_cons_of_ne_nil (String.utf8EncodeChar_ne_nil (c := c))
      rw [encode_cons, encodeChar, hbytes]
      exact List.nil_lt_cons b _
  | rel hlt => exact encodeChar_append_lt hlt _ _
  | cons _ ih => exact List.append_left_lt ih

/-- Texts compare as their bytes do. -/
theorem encode_lt_encode_iff {s t : Text} : encode s < encode t ↔ s < t := by
  refine ⟨fun h => ?_, encode_lt_encode⟩
  rcases Text.lt_or_eq_or_gt s t with hlt | rfl | hgt
  · exact hlt
  · exact absurd h (List.lt_irrefl _)
  · exact absurd h (List.lt_asymm (encode_lt_encode hgt))

end LineDispatch.Utf8
