import LineDispatch.Loop

/-!
# Cutting bytes into lines

The lines of an input end behind its newline bytes, and what stands behind the
last of these is a line too unless it is empty.  `Streams.Cut` says this without
saying how to find the places, and `Streams.cut_iff` that `rawLines` finds them:
an input is cut in just one way.

Everything about `rawLines` follows from two equations, one at the first newline
byte (`Streams.rawLines_append_newline`) and one at any
(`Streams.rawLines_append`).
-/

namespace LineDispatch.Streams

/-- The bytes are cut behind each newline byte: there are none, or one line without a newline byte
is left, or a line goes to its newline byte and the rest is cut likewise. -/
inductive Cut : List UInt8 → List (List UInt8) → Prop
  | none : Cut [] []
  | last {line : List UInt8} (hne : line ≠ []) (h : 10 ∉ line) : Cut line [line]
  | line {line rest : List UInt8} {lines : List (List UInt8)} (h : 10 ∉ line)
    (more : Cut rest lines) : Cut (line ++ 10 :: rest) ((line ++ [10]) :: lines)

theorem rawLines_newline_cons (rest : List UInt8) :
    rawLines (10 :: rest) = [10] :: rawLines rest := by
  rw [rawLines, if_pos rfl]

theorem rawLines_cons {b : UInt8} (hb : b ≠ 10) {rest line : List UInt8}
    {lines : List (List UInt8)} (h : rawLines rest = line :: lines) :
    rawLines (b :: rest) = (b :: line) :: lines := by
  rw [rawLines, if_neg hb, h]

theorem rawLines_ne_nil {input : List UInt8} (h : input ≠ []) : rawLines input ≠ [] := by
  cases input with
  | nil => exact absurd rfl h
  | cons b rest =>
      rw [rawLines]
      split
      · exact List.cons_ne_nil _ _
      · split <;> exact List.cons_ne_nil _ _

theorem rawLines_of_notMem {line : List UInt8} (hne : line ≠ []) (h : 10 ∉ line) :
    rawLines line = [line] := by
  induction line with
  | nil => exact absurd rfl hne
  | cons b rest ih =>
      rw [List.mem_cons, not_or] at h
      have hb : b ≠ 10 := Ne.symm h.1
      by_cases hrest : rest = []
      · rw [hrest, rawLines, if_neg hb]
        rfl
      · exact rawLines_cons hb (ih hrest h.2)

/-- The first line goes to the first newline byte. -/
theorem rawLines_append_newline {line : List UInt8} (h : 10 ∉ line) (rest : List UInt8) :
    rawLines (line ++ 10 :: rest) = (line ++ [10]) :: rawLines rest := by
  induction line with
  | nil => exact rawLines_newline_cons rest
  | cons b line ih =>
      rw [List.mem_cons, not_or] at h
      have hb : b ≠ 10 := Ne.symm h.1
      exact rawLines_cons hb (ih h.2)

/-- Behind any newline byte the cutting starts afresh. -/
theorem rawLines_append (x y : List UInt8) :
    rawLines (x ++ 10 :: y) = rawLines (x ++ [10]) ++ rawLines y := by
  induction x with
  | nil =>
      have hone : rawLines [10] = [[10]] := rawLines_newline_cons []
      rw [List.nil_append, List.nil_append, rawLines_newline_cons, hone, List.singleton_append]
  | cons b x ih =>
      rw [List.cons_append, List.cons_append]
      by_cases hb : b = 10
      · rw [hb, rawLines_newline_cons, rawLines_newline_cons, ih, List.cons_append]
      · have hne : rawLines (x ++ [10]) ≠ [] := rawLines_ne_nil (by simp)
        obtain ⟨line, lines, hx⟩ := List.exists_cons_of_ne_nil hne
        rw [hx, List.cons_append] at ih
        rw [rawLines_cons hb ih, rawLines_cons hb hx, List.cons_append]

theorem cut_rawLines (input : List UInt8) : Cut input (rawLines input) := by
  induction input with
  | nil => exact .none
  | cons b input ih =>
      by_cases hb : b = 10
      · rw [hb, rawLines_newline_cons]
        exact @Cut.line [] input _ List.not_mem_nil ih
      -- The byte goes to the front of the first line of the rest.
      · have hnot : ∀ line : List UInt8, 10 ∉ line → 10 ∉ b :: line := by
          intro line h
          rw [List.mem_cons, not_or]
          exact ⟨Ne.symm hb, h⟩
        generalize hlines : rawLines input = lines at ih
        cases ih with
        | none =>
            rw [rawLines_of_notMem (List.cons_ne_nil b []) (hnot [] List.not_mem_nil)]
            exact .last (List.cons_ne_nil b []) (hnot [] List.not_mem_nil)
        | last hne h =>
            rw [rawLines_cons hb hlines]
            exact .last (List.cons_ne_nil b input) (hnot input h)
        | line h more =>
            rw [rawLines_cons hb hlines]
            exact .line (hnot _ h) more

/-- There is one way to cut an input. -/
theorem cut_iff {input : List UInt8} {lines : List (List UInt8)} :
    Cut input lines ↔ lines = rawLines input := by
  constructor
  · intro h
    induction h with
    | none => rfl
    | last hne h => rw [rawLines_of_notMem hne h]
    | line h more ih => rw [rawLines_append_newline h, ih]
  · rintro rfl
    exact cut_rawLines input

end LineDispatch.Streams
