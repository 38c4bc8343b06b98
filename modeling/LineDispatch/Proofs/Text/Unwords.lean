import LineDispatch.Text

/-!
# Words in one line

A word alone is its own line (`Text.unwords_singleton`), and a word in front of
others stands before a space and their line (`Text.unwords_cons`).  What a line
holds around one of its words follows from these two equations: the words before
it, each with a space behind it (`Text.unwords_append_cons`).

Lines can be joined in their turn, and it makes no difference which words were
joined first (`Text.unwords_map_unwords`).  Joining adds nothing but spaces
(`Text.countP_unwords`).
-/

namespace LineDispatch.Text

@[simp] theorem unwords_singleton (word : Text) : unwords [word] = word :=
  List.intercalate_singleton

theorem unwords_cons (word : Text) {words : List Text} (h : words ≠ []) :
    unwords (word :: words) = word ++ ' ' :: unwords words := by
  rw [unwords, List.intercalate_cons_of_ne_nil h, List.append_assoc]
  rfl

theorem unwords_cons_word (c : Char) (word : Text) (words : List Text) :
    unwords ((c :: word) :: words) = c :: unwords (word :: words) := by
  by_cases h : words = []
  · rw [h, unwords_singleton, unwords_singleton]
  · rw [unwords_cons _ h, unwords_cons _ h, List.cons_append]

theorem unwords_append {front back : List Text} (hfront : front ≠ []) (hback : back ≠ []) :
    unwords (front ++ back) = unwords front ++ ' ' :: unwords back := by
  induction front with
  | nil => exact absurd rfl hfront
  | cons word rest ih =>
      by_cases hrest : rest = []
      · rw [hrest, unwords_singleton]
        exact unwords_cons word hback
      · have hne : rest ++ back ≠ [] := List.append_ne_nil_of_left_ne_nil hrest back
        rw [List.cons_append, unwords_cons word hne, ih hrest, unwords_cons word hrest,
          List.append_assoc, List.cons_append]

/-- In front of a word stand the words before it, each with a space behind it. -/
theorem unwords_append_cons (front : List Text) (word : Text) (back : List Text) :
    unwords (front ++ word :: back) = front.flatMap (· ++ [' ']) ++ unwords (word :: back) := by
  induction front with
  | nil => rfl
  | cons first rest ih =>
      have hne : rest ++ word :: back ≠ [] := List.append_ne_nil_of_right_ne_nil rest (by simp)
      rw [List.cons_append, unwords_cons first hne, ih, List.flatMap_cons, List.append_assoc,
        List.append_assoc, List.singleton_append]

theorem prefix_unwords_cons (word : Text) (words : List Text) :
    word <+: unwords (word :: words) := by
  by_cases h : words = []
  · exact ⟨[], by rw [h, unwords_singleton, List.append_nil]⟩
  · rw [unwords_cons word h]
    exact List.prefix_append word _

theorem suffix_unwords_concat (words : List Text) (word : Text) :
    word <:+ unwords (words ++ [word]) := by
  rw [unwords_append_cons, unwords_singleton]
  exact List.suffix_append _ word

/-- Of the characters that are no spaces the line holds as many as its words. -/
theorem countP_unwords {p : Char → Bool} (hp : p ' ' = false) (words : List Text) :
    (unwords words).countP p = words.flatten.countP p := by
  induction words with
  | nil => rfl
  | cons word rest ih =>
      by_cases hrest : rest = []
      · rw [hrest, unwords_singleton, List.flatten_singleton]
      · rw [unwords_cons word hrest, List.countP_append, List.countP_cons_of_neg (by simp [hp]), ih,
          List.flatten_cons, List.countP_append]

theorem mem_of_mem_unwords {c : Char} (hc : c ≠ ' ') {words : List Text}
    (h : c ∈ unwords words) : ∃ word ∈ words, c ∈ word := by
  have hpos : 0 < (unwords words).countP (· == c) :=
    List.countP_pos_iff.2 ⟨c, h, beq_self_eq_true c⟩
  have hspace : (' ' == c) = false := beq_eq_false_iff_ne.2 hc.symm
  rw [countP_unwords (p := (· == c)) hspace, List.countP_pos_iff] at hpos
  obtain ⟨c', hmem, heq⟩ := hpos
  rw [eq_of_beq heq] at hmem
  exact List.mem_flatten.1 hmem

/-- The line of the lines of some words is the line of all of them. -/
theorem unwords_map_unwords {runs : List (List Text)} (h : [] ∉ runs) :
    unwords (runs.map unwords) = unwords runs.flatten := by
  induction runs with
  | nil => rfl
  | cons run rest ih =>
      rw [List.mem_cons, not_or] at h
      by_cases hrest : rest = []
      · rw [hrest]
        simp
      · obtain ⟨next, others, rfl⟩ := List.exists_cons_of_ne_nil hrest
        have hnext : (next :: others).flatten ≠ [] := by
          intro hnil
          have hempty : next = [] := List.flatten_eq_nil_iff.1 hnil next List.mem_cons_self
          exact h.2 (hempty ▸ List.mem_cons_self)
        rw [List.map_cons, unwords_cons _ (by simp), ih h.2, ← unwords_append (Ne.symm h.1) hnext]
        rfl

end LineDispatch.Text
