import Mathlib.Order.Bounds.Basic
import Mathlib.Order.MinMax
import LineDispatch.Suggestion

/-!
# The distance of two texts

The distance is worked out row by row from a table.  This file proves that it is
the least number of edits that turn one text into the other, where an edit puts
one character in, takes one out or replaces one (`isLeast_editDistance`).

Between the edits and the table stand alignments: two texts side by side, with a
cost of one for each place where they differ.  An alignment can be carried out
edit by edit (`Aligned.edits`), and after each edit the texts can be aligned
again at a cost of one more at most (`exists_aligned_of_edit`), so that least
cost and least number of edits are the same.  Least costs obey the rule by which
the table is filled (`isLeast_cons_cons`).

An alignment is built from its front and the table from beginnings that grow at
their end.  So the table is read as one of reversed beginnings (`Row`), and its
last entry is the distance of the reversed texts, which need as many edits as the
texts themselves (`edits_reverse_iff`).
-/

namespace LineDispatch

/-- One edit: at the front of a text, or behind its first character. -/
inductive Edit : Text → Text → Prop
  | insert (c : Char) (t : Text) : Edit t (c :: t)
  | delete (c : Char) (t : Text) : Edit (c :: t) t
  | replace (c d : Char) (t : Text) : Edit (c :: t) (d :: t)
  | behind (c : Char) {s t : Text} (h : Edit s t) : Edit (c :: s) (c :: t)

/-- A number of edits in a row. -/
inductive Edits : Nat → Text → Text → Prop
  | none (t : Text) : Edits 0 t t
  | more {n : Nat} {s t u : Text} (h : Edits n s t) (hedit : Edit t u) : Edits (n + 1) s u

namespace EditDistance

variable {s t u ds : Text} {c d : Char} {n m : Nat} {row : List Nat}

/-! ## Edits anywhere in a text -/

theorem edit_append_right (h : Edit s t) (u : Text) : Edit (s ++ u) (t ++ u) := by
  induction h with
  | insert c t => exact .insert c (t ++ u)
  | delete c t => exact .delete c (t ++ u)
  | replace c d t => exact .replace c d (t ++ u)
  | behind c _ ih => exact .behind c ih

theorem edit_append_left (h : Edit s t) (u : Text) : Edit (u ++ s) (u ++ t) := by
  induction u with
  | nil => exact h
  | cons c u ih => exact .behind c ih

theorem edit_reverse (h : Edit s t) : Edit s.reverse t.reverse := by
  induction h with
  | insert c t =>
      have hend := edit_append_left (.insert c []) t.reverse
      rwa [List.append_nil, ← List.reverse_cons] at hend
  | delete c t =>
      have hend := edit_append_left (.delete c []) t.reverse
      rwa [List.append_nil, ← List.reverse_cons] at hend
  | replace c d t =>
      have hend := edit_append_left (.replace c d []) t.reverse
      rwa [← List.reverse_cons, ← List.reverse_cons] at hend
  | behind c _ ih =>
      rw [List.reverse_cons, List.reverse_cons]
      exact edit_append_right ih [c]

theorem edits_behind (h : Edits n s t) (c : Char) : Edits n (c :: s) (c :: t) := by
  induction h with
  | none t => exact .none (c :: t)
  | more _ hedit ih => exact .more ih (.behind c hedit)

theorem edits_reverse (h : Edits n s t) : Edits n s.reverse t.reverse := by
  induction h with
  | none t => exact .none t.reverse
  | more _ hedit ih => exact .more ih (edit_reverse hedit)

theorem edits_reverse_iff : Edits n s.reverse t.reverse ↔ Edits n s t := by
  constructor
  · intro h
    have hback := edits_reverse h
    rwa [List.reverse_reverse, List.reverse_reverse] at hback
  · exact edits_reverse

/-! ## Alignments -/

/-- Two texts side by side, and the number of places where they differ. -/
inductive Aligned : Text → Text → Nat → Prop
  | nil : Aligned [] [] 0
  | keep (c : Char) {s t : Text} {n : Nat} (h : Aligned s t n) : Aligned (c :: s) (c :: t) n
  | replace (c d : Char) {s t : Text} {n : Nat} (h : Aligned s t n) :
    Aligned (c :: s) (d :: t) (n + 1)
  | insert (d : Char) {s t : Text} {n : Nat} (h : Aligned s t n) : Aligned s (d :: t) (n + 1)
  | delete (c : Char) {s t : Text} {n : Nat} (h : Aligned s t n) : Aligned (c :: s) t (n + 1)

theorem aligned_self (t : Text) : Aligned t t 0 := by
  induction t with
  | nil => exact .nil
  | cons c t ih => exact .keep c ih

theorem Aligned.edits (h : Aligned s t n) : Edits n s t := by
  induction h with
  | nil => exact .none []
  | keep c _ ih => exact edits_behind ih c
  | replace c d _ ih => exact .more (edits_behind ih c) (.replace c d _)
  | insert d _ ih => exact .more ih (.insert d _)
  | delete c _ ih => exact .more (edits_behind ih c) (.delete c _)

/-- After one more edit the texts are aligned at one more place at most. -/
theorem exists_aligned_of_edit (h : Aligned s t n) (hedit : Edit t u) :
    ∃ m ≤ n + 1, Aligned s u m := by
  induction h generalizing u with
  | nil =>
      cases hedit with
      | insert d t => exact ⟨1, Nat.le_refl 1, .insert d .nil⟩
  | @keep c s t n h ih =>
      cases hedit with
      | insert d => exact ⟨n + 1, Nat.le_refl _, .insert d (.keep c h)⟩
      | delete => exact ⟨n + 1, Nat.le_refl _, .delete c h⟩
      | replace _ d => exact ⟨n + 1, Nat.le_refl _, .replace c d h⟩
      | behind _ hedit =>
          obtain ⟨m, hm, haligned⟩ := ih hedit
          exact ⟨m, hm, .keep c haligned⟩
  | @replace c d s t n h ih =>
      cases hedit with
      | insert d' => exact ⟨n + 2, Nat.le_refl _, .insert d' (.replace c d h)⟩
      | delete => exact ⟨n + 1, Nat.le_succ _, .delete c h⟩
      | replace _ d' => exact ⟨n + 1, Nat.le_succ _, .replace c d' h⟩
      | behind _ hedit =>
          obtain ⟨m, hm, haligned⟩ := ih hedit
          exact ⟨m + 1, Nat.succ_le_succ hm, .replace c d haligned⟩
  | @insert d s t n h ih =>
      cases hedit with
      | insert d' => exact ⟨n + 2, Nat.le_refl _, .insert d' (.insert d h)⟩
      | delete => exact ⟨n, by omega, h⟩
      | replace _ d' => exact ⟨n + 1, Nat.le_succ _, .insert d' h⟩
      | behind _ hedit =>
          obtain ⟨m, hm, haligned⟩ := ih hedit
          exact ⟨m + 1, Nat.succ_le_succ hm, .insert d haligned⟩
  | @delete c s t n h ih =>
      obtain ⟨m, hm, haligned⟩ := ih hedit
      exact ⟨m + 1, Nat.succ_le_succ hm, .delete c haligned⟩

theorem exists_aligned_of_edits (h : Edits n s t) : ∃ m ≤ n, Aligned s t m := by
  induction h with
  | none t => exact ⟨0, Nat.le_refl 0, aligned_self t⟩
  | more _ hedit ih =>
      obtain ⟨k, hk, haligned⟩ := ih
      obtain ⟨m, hm, haligned'⟩ := exists_aligned_of_edit haligned hedit
      exact ⟨m, Nat.le_trans hm (Nat.succ_le_succ hk), haligned'⟩

theorem isLeast_edits (h : IsLeast {n | Aligned s t n} n) : IsLeast {n | Edits n s t} n := by
  refine ⟨Aligned.edits h.1, fun m hm => ?_⟩
  obtain ⟨k, hk, haligned⟩ := exists_aligned_of_edits hm
  exact Nat.le_trans (h.2 haligned) hk

/-! ## Least costs -/

theorem length_le_of_aligned (h : Aligned s t n) :
    s.length ≤ t.length + n ∧ t.length ≤ s.length + n := by
  induction h with
  | nil => simp
  | keep | replace | insert | delete =>
      simp only [List.length_cons]
      omega

theorem isLeast_nil_left (t : Text) : IsLeast {n | Aligned [] t n} t.length := by
  constructor
  · induction t with
    | nil => exact .nil
    | cons d t ih => exact .insert d ih
  · intro n h
    have hlength := (length_le_of_aligned h).2
    rwa [List.length_nil, Nat.zero_add] at hlength

theorem isLeast_nil_right (s : Text) : IsLeast {n | Aligned s [] n} s.length := by
  constructor
  · induction s with
    | nil => exact .nil
    | cons c s ih => exact .delete c ih
  · intro n h
    have hlength := (length_le_of_aligned h).1
    rwa [List.length_nil, Nat.zero_add] at hlength

/-- The cheapest alignment of two texts is one of the cheapest of what is left of them when a first
character is put in, taken out, or set against the other. -/
theorem isLeast_cons_cons {left above corner : Nat} (hleft : IsLeast {n | Aligned (c :: s) t n} left)
    (habove : IsLeast {n | Aligned s (d :: t) n} above)
    (hcorner : IsLeast {n | Aligned s t n} corner) :
    IsLeast {n | Aligned (c :: s) (d :: t) n}
      (min (min (left + 1) (above + 1)) (if c = d then corner else corner + 1)) := by
  have hinsert : Aligned (c :: s) (d :: t) (left + 1) := .insert d hleft.1
  have hdelete : Aligned (c :: s) (d :: t) (above + 1) := .delete c habove.1
  have hagainst : Aligned (c :: s) (d :: t) (if c = d then corner else corner + 1) := by
    split
    · rename_i heq
      subst heq
      exact .keep c hcorner.1
    · exact .replace c d hcorner.1
  constructor
  · rcases min_choice (min (left + 1) (above + 1)) (if c = d then corner else corner + 1) with h | h
    · rw [h]
      rcases min_choice (left + 1) (above + 1) with h | h
      · rwa [h]
      · rwa [h]
    · rwa [h]
  · intro n h
    cases h with
    | keep _ h =>
        have hle : corner ≤ n := hcorner.2 h
        rw [if_pos rfl]
        omega
    | @replace _ _ _ _ k h =>
        have hle : corner ≤ k := hcorner.2 h
        split <;> omega
    | @insert _ _ _ k h =>
        have hle : left ≤ k := hleft.2 h
        omega
    | @delete _ _ _ k h =>
        have hle : above ≤ k := habove.2 h
        omega

/-! ## The table -/

/-- A row of the table: the least costs against a beginning of the target and all longer ones.  The
beginnings are held in reverse, `ds` being what is left of the target. -/
inductive Row (s : Text) : Text → Text → List Nat → Prop
  | last {u : Text} {n : Nat} (h : IsLeast {n | Aligned s u n} n) : Row s u [] [n]
  | cons {u : Text} {d : Char} {ds : Text} {n : Nat} {row : List Nat}
    (h : IsLeast {n | Aligned s u n} n) (hrest : Row s (d :: u) ds row) : Row s u (d :: ds) (n :: row)

theorem Row.exists_head (h : Row s u ds row) :
    ∃ n rest, row = n :: rest ∧ IsLeast {n | Aligned s u n} n := by
  cases h with
  | last h => exact ⟨_, _, rfl, h⟩
  | cons h _ => exact ⟨_, _, rfl, h⟩

theorem Row.isLeast_last (h : Row s u ds row) :
    IsLeast {n | Aligned s (ds.reverse ++ u) n} (row.getLastD 0) := by
  induction h with
  | last h => exact h
  | @cons u d ds n row h hrest ih =>
      obtain ⟨m, rest, rfl, -⟩ := hrest.exists_head
      rw [List.reverse_cons, List.append_assoc]
      exact ih

theorem row_range (u ds : Text) : Row [] u ds (List.range' u.length (ds.length + 1)) := by
  induction ds generalizing u with
  | nil => exact .last (isLeast_nil_left u)
  | cons d ds ih =>
      rw [List.range'_succ]
      exact .cons (isLeast_nil_left u) (ih (d :: u))

theorem Row.rowFrom (h : Row s u ds row) {left : Nat}
    (hleft : IsLeast {n | Aligned (c :: s) u n} left) :
    Row (c :: s) u ds (left :: rowFrom c left row ds) := by
  induction h generalizing left with
  | last => exact .last hleft
  | @cons u d ds corner row hcorner hrest ih =>
      obtain ⟨above, rest, rfl, habove⟩ := hrest.exists_head
      exact .cons hleft (ih (isLeast_cons_cons hleft habove hcorner))

theorem Row.nextRow (h : Row s [] ds row) (c : Char) : Row (c :: s) [] ds (nextRow ds row c) := by
  obtain ⟨n, rest, rfl, hn⟩ := h.exists_head
  obtain rfl : n = s.length := hn.unique (isLeast_nil_right s)
  exact h.rowFrom (isLeast_nil_right (c :: s))

theorem Row.foldl (h : Row s [] ds row) (source : Text) :
    Row (source.reverse ++ s) [] ds (source.foldl (EditDistance.nextRow ds) row) := by
  induction source generalizing s row with
  | nil => exact h
  | cons c source ih =>
      rw [List.reverse_cons, List.append_assoc]
      exact ih (h.nextRow c)

end EditDistance

open EditDistance in
/-- The distance is the least number of edits that turn one text into the other. -/
theorem isLeast_editDistance (source target : Text) :
    IsLeast {n | Edits n source target} (editDistance source target) := by
  have hfirst : Row [] [] target (List.range (target.length + 1)) := by
    rw [List.range_eq_range']
    exact row_range [] target
  have hlast := (hfirst.foldl source).isLeast_last
  simp only [List.append_nil] at hlast
  have hreverse := isLeast_edits hlast
  simp only [edits_reverse_iff] at hreverse
  exact hreverse

end LineDispatch
