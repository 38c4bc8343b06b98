import LineDispatch.Text

/-!
# Blank characters

The characters of Unicode's `White_Space` property, and trimming them off the
ends of a text.
-/

namespace LineDispatch

/-- Whether a character is white space: the 25 characters of the Unicode property. -/
def blank (c : Char) : Bool :=
  let n := c.toNat
  (9 ≤ n && n ≤ 13) || n == 0x20 || n == 0x85 || n == 0xA0 || n == 0x1680
    || (0x2000 ≤ n && n ≤ 0x200A) || n == 0x2028 || n == 0x2029 || n == 0x202F
    || n == 0x205F || n == 0x3000

namespace Text

/-- The text without the blank characters at both of its ends. -/
def trim (t : Text) : Text := dropTrailing blank (t.dropWhile blank)

/-- Whether a text holds nothing but blank characters. -/
def isBlank (t : Text) : Bool := t.all blank

theorem dropWhile_eq_self {p : Char → Bool} {t : Text} (h : ∀ c ∈ t.head?, p c = false) :
    t.dropWhile p = t := by
  cases t with
  | nil => rfl
  | cons c rest => simp [h c rfl]

theorem trim_sublist (t : Text) : t.trim.Sublist t := by
  have hfront : (t.dropWhile blank).Sublist t := List.dropWhile_sublist blank
  have hback := (List.dropWhile_sublist blank (l := (t.dropWhile blank).reverse)).reverse
  rw [List.reverse_reverse] at hback
  exact hback.trans hfront

/-- Blank surroundings are trimmed off a text that neither begins nor ends with a blank. -/
theorem trim_surrounded {before body after : Text} (hbefore : before.isBlank = true)
    (hafter : after.isBlank = true) (hfirst : ∀ c ∈ body.head?, blank c = false)
    (hlast : ∀ c ∈ body.getLast?, blank c = false) : (before ++ body ++ after).trim = body := by
  simp only [isBlank, List.all_eq_true] at hbefore hafter
  rw [trim, List.append_assoc, List.dropWhile_append_of_pos hbefore]
  by_cases hbody : body = []
  · subst hbody
    have hnone : (after ++ []).dropWhile blank = [] := List.dropWhile_append_of_pos hafter
    rw [List.append_nil] at hnone
    rw [List.nil_append, hnone]
    rfl
  · rw [dropWhile_eq_self fun c hc => hfirst c ?_, dropTrailing, List.reverse_append,
      List.dropWhile_append_of_pos fun c hc => hafter c (List.mem_reverse.1 hc),
      dropWhile_eq_self fun c hc => hlast c ?_, List.reverse_reverse]
    · rwa [List.head?_reverse] at hc
    · cases body with
      | nil => exact absurd rfl hbody
      | cons first rest => exact hc

end Text

@[simp] theorem blank_space : blank ' ' = true := rfl

end LineDispatch
