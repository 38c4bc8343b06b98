import LineDispatch.Proofs.Text.Unwords

/-!
# Columns of words

Where a word begins in the line of some words, counted from one.  From there on
the line begins with the word (`Text.prefix_drop_columnAt`), and words that are
put in front move it by their characters and by a space for each
(`Text.columnAt_append`).
-/

namespace LineDispatch.Text

/-- The column, counted from one, of the word at an index in the line of the words. -/
def columnAt (words : List Text) (index : Nat) : Nat :=
  ((words.take index).flatMap (· ++ [' '])).length + 1

/-- From its column on the line begins with the word. -/
theorem prefix_drop_columnAt {words : List Text} {index : Nat} {word : Text}
    (h : words[index]? = some word) :
    word <+: (unwords words).drop (columnAt words index - 1) := by
  obtain ⟨hlt, rfl⟩ := List.getElem?_eq_some_iff.1 h
  have hwords : words = words.take index ++ words[index] :: words.drop (index + 1) := by
    rw [← List.drop_eq_getElem_cons hlt, List.take_append_drop]
  have hline : unwords words = (words.take index).flatMap (· ++ [' ']) ++
      unwords (words[index] :: words.drop (index + 1)) := by
    rw [← unwords_append_cons, ← hwords]
  rw [columnAt, Nat.add_sub_cancel, hline, List.drop_left]
  exact prefix_unwords_cons _ _

/-- In front of others some words take their characters, and a space each. -/
theorem length_flatMap_space (words : List Text) :
    (words.flatMap (· ++ [' '])).length = words.flatten.length + words.length := by
  induction words with
  | nil => rfl
  | cons word rest ih =>
      simp only [List.flatMap_cons, List.flatten_cons, List.length_append, List.length_cons,
        List.length_nil, ih]
      omega

theorem columnAt_append (front words : List Text) (index : Nat) :
    columnAt (front ++ words) (front.length + index) =
      columnAt words index + front.flatten.length + front.length := by
  have htake : (front ++ words).take (front.length + index) = front ++ words.take index :=
    List.take_length_add_append index
  rw [columnAt, htake, List.flatMap_append, List.length_append, length_flatMap_space, columnAt]
  omega

end LineDispatch.Text
