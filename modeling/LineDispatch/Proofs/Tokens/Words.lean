import LineDispatch.Proofs.Tokens.Grouping

/-!
# The words of a text

The words of a text stand between its spaces, however many there are.  Where a
space stands between two texts their words are put after one another
(`plain_append_space`), so that words with a space behind each are read back
(`plain_words`).  A word is the first of a text if the text begins with it
behind spaces alone and a space or the end of the text follows
(`head?_plain_eq_some_iff`).
-/

namespace LineDispatch.Tokens

theorem plain_append_space (x y : Text) : plain (x ++ ' ' :: y) = plain x ++ plain y := by
  rw [plain, pieces_append_space, List.filter_append]
  rfl

@[simp] theorem plain_space_cons (t : Text) : plain (' ' :: t) = plain t :=
  plain_append_space [] t

@[simp] theorem plain_spaces_append (n : Nat) (t : Text) :
    plain (List.replicate n ' ' ++ t) = plain t := by
  induction n with
  | zero => rfl
  | succ n ih => rw [List.replicate_succ, List.cons_append, plain_space_cons, ih]

/-- A text without spaces is its only word, unless it is empty. -/
theorem plain_of_space_notMem {w : Text} (h : ' ' ∉ w) : plain w = [w].filter (· ≠ []) := by
  rw [plain, pieces_eq_singleton h]

/-- The words of a text are the complete ones in it, each with a space behind it, and those of the
rest. -/
theorem plain_words {words : List Text} (hwords : ∀ w ∈ words, w ≠ [] ∧ ' ' ∉ w) (rest : Text) :
    plain (words.flatMap (· ++ [' ']) ++ rest) = words ++ plain rest := by
  induction words with
  | nil => rfl
  | cons w words ih =>
      obtain ⟨hne, hspace⟩ := hwords w List.mem_cons_self
      have hsplit : (w :: words).flatMap (· ++ [' ']) ++ rest =
          w ++ ' ' :: (words.flatMap (· ++ [' ']) ++ rest) := by simp
      rw [hsplit, plain_append_space, plain_of_space_notMem hspace,
        ih fun w' hw' => hwords w' (List.mem_cons_of_mem _ hw')]
      simp [hne]

/-- Whether a text begins with a word, behind spaces alone and with a space or the end of the text
behind it. -/
def StartsBare (w t : Text) : Prop :=
  ∃ n rest, t = List.replicate n ' ' ++ w ++ rest ∧ ∀ c ∈ rest.head?, c = ' '

theorem head?_plain_of_startsBare {w t : Text} (hne : w ≠ []) (hspace : ' ' ∉ w)
    (h : StartsBare w t) : (plain t).head? = some w := by
  obtain ⟨n, rest, rfl, hrest⟩ := h
  have hword : plain w = [w] := by simp [plain_of_space_notMem hspace, hne]
  rw [List.append_assoc, plain_spaces_append]
  cases rest with
  | nil =>
      rw [List.append_nil, hword]
      rfl
  | cons c rest =>
      obtain rfl := hrest c rfl
      rw [plain_append_space, hword]
      rfl

theorem startsBare_of_head?_plain {w t : Text} (h : (plain t).head? = some w) :
    StartsBare w t := by
  induction t with
  | nil => cases h
  | cons c t ih =>
      by_cases hc : c = ' '
      · subst hc
        rw [plain_space_cons] at h
        obtain ⟨n, rest, rfl, hrest⟩ := ih h
        exact ⟨n + 1, rest, rfl, hrest⟩
      · by_cases hspace : ' ' ∈ c :: t
        -- The word ends at the first space.
        · obtain ⟨front, back, he, hfront⟩ := List.eq_append_cons_of_mem hspace
          have hne : front ≠ [] := by
            rintro rfl
            exact hc (List.cons.inj he).1
          rw [he, plain_append_space, plain_of_space_notMem hfront] at h
          obtain rfl : front = w := by simpa [hne] using h
          exact ⟨0, ' ' :: back, by simpa using he, by simp⟩
        · rw [plain_of_space_notMem hspace] at h
          obtain rfl : c :: t = w := by simpa using h
          exact ⟨0, [], by simp, by simp⟩

/-- The first word of a text is the one that it begins with. -/
theorem head?_plain_eq_some_iff {w t : Text} (hne : w ≠ []) (hspace : ' ' ∉ w) :
    (plain t).head? = some w ↔ StartsBare w t :=
  ⟨startsBare_of_head?_plain, head?_plain_of_startsBare hne hspace⟩

end LineDispatch.Tokens
