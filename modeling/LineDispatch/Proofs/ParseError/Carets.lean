import Mathlib.Data.List.DropRight
import LineDispatch.ParseError
import LineDispatch.Proofs.Text.Columns

/-!
# Where the caret stands

A parse error is displayed on two lines: the line of its tokens, and below it a
caret in the column of the faulty token.  So what the first line holds from the
place of the caret on begins with that token (`ParseError.prefix_drop_column`).

An error can be told again and again against longer lists of tokens.  However
often that is done it comes to putting some tokens in front once
(`ParseError.exists_rebase_of_mem_scanl`), which moves index and column along
with the token (`ParseError.getElem?_rebase`, `ParseError.column_rebase`).
-/

namespace LineDispatch

/-- What stands behind the last line feed of a text, or all of a text without one. -/
def Text.lastLine (t : Text) : Text := t.rtakeWhile (· ≠ '\n')

theorem Text.lastLine_append_newline {last : Text} (h : '\n' ∉ last) (t : Text) :
    (t ++ '\n' :: last).lastLine = last := by
  have hlast : ∀ c ∈ last.reverse, (decide (c ≠ '\n')) = true := by
    intro c hc
    refine decide_eq_true ?_
    rintro rfl
    exact h (List.mem_reverse.1 hc)
  rw [lastLine, List.rtakeWhile, List.reverse_append, List.reverse_cons, List.append_assoc,
    List.takeWhile_append_of_pos hlast]
  simp

namespace ParseError

variable {e stage : ParseError} {front : List Text} {token : Text}

/-! ## One error -/

/-- The line with the caret. -/
def caretLine (e : ParseError) : Text := List.replicate (e.column - 1) ' ' ++ ['^']

theorem pointer_eq (e : ParseError) : e.pointer = e.line ++ '\n' :: e.caretLine := by
  simp [pointer, caretLine]

theorem lastLine_pointer (e : ParseError) : e.pointer.lastLine = e.caretLine := by
  have hcaret : '\n' ∉ e.caretLine := by simp [caretLine]
  rw [pointer_eq, Text.lastLine_append_newline hcaret]

theorem prefix_drop_column (h : e.tokens[e.index]? = some token) :
    token <+: e.line.drop (e.column - 1) :=
  Text.prefix_drop_columnAt h

/-! ## Tokens put in front -/

theorem getElem?_rebase (front : List Text) (e : ParseError) :
    (e.rebase front).tokens[(e.rebase front).index]? = e.tokens[e.index]? := by
  show (front ++ e.tokens)[front.length + e.index]? = e.tokens[e.index]?
  rw [List.getElem?_append_right (Nat.le_add_right _ _), Nat.add_sub_cancel_left]

/-- The column moves by the characters put in front and a space behind each token, also if the
error points behind its tokens. -/
theorem column_rebase (front : List Text) (e : ParseError) :
    (e.rebase front).column = e.column + front.flatten.length + front.length :=
  Text.columnAt_append front e.tokens e.index

/-- Telling an error against longer and longer lists of tokens is telling it once against the
longest. -/
theorem exists_rebase_of_mem_scanl {fronts : List (List Text)}
    (h : stage ∈ fronts.scanl (fun e front => e.rebase front) e) :
    ∃ front, stage = e.rebase front := by
  induction fronts generalizing e with
  | nil =>
      obtain rfl : stage = e := by simpa using h
      exact ⟨[], (rebase_nil stage).symm⟩
  | cons front rest ih =>
      rw [List.scanl_cons] at h
      rcases List.mem_cons.1 h with rfl | h
      · exact ⟨[], (rebase_nil stage).symm⟩
      · obtain ⟨later, rfl⟩ := ih h
        exact ⟨later ++ front, rebase_rebase front later e⟩

/-- An error that points at one of its tokens goes on to point at that token however often tokens are
put in front: from the place of the caret on, its line begins with the token.  Putting tokens in front
twice is putting them in front at once, and once moves the column by what is put in front and leaves
the fault. -/
theorem caret_outcome (e : ParseError) :
    (∀ hindex : e.index < e.tokens.length, ∀ fronts : List (List Text),
      ∀ stage ∈ fronts.scanl (fun e front => e.rebase front) e,
        stage.tokens[stage.index]? = some e.tokens[e.index] ∧
          e.tokens[e.index] <+: stage.line.drop (stage.column - 1) ∧
          stage.pointer = stage.line ++ '\n' :: stage.pointer.lastLine ∧
          stage.pointer.lastLine = List.replicate (stage.column - 1) ' ' ++ ['^'] ∧
          1 ≤ stage.column) ∧
      (∀ p q, (e.rebase p).rebase q = e.rebase (q ++ p)) ∧
      ∀ p, (e.rebase p).fault = e.fault ∧
        (e.rebase p).column = e.column + p.flatten.length + p.length := by
  refine ⟨fun hindex fronts stage hstage => ?_, fun p q => rebase_rebase p q e,
    fun p => ⟨rebase_fault p e, column_rebase p e⟩⟩
  obtain ⟨front, rfl⟩ := exists_rebase_of_mem_scanl hstage
  have htoken : (e.rebase front).tokens[(e.rebase front).index]? = some e.tokens[e.index] := by
    rw [getElem?_rebase, List.getElem?_eq_getElem hindex]
  refine ⟨htoken, prefix_drop_column htoken, ?_, lastLine_pointer _, column_pos _⟩
  rw [lastLine_pointer]
  exact pointer_eq _

/-- An error behind an empty token, told twice against longer lists of tokens. -/
theorem caret_outcome_twice :
    let e : ParseError := ⟨.invalidNumber "größe" "i32", ["", "größe", "x"], 1⟩
    let fronts : List (List Text) := [["ä", "op"], ["cmd"]]
    e.index < e.tokens.length ∧
      ∀ stage ∈ fronts.scanl (fun e front => e.rebase front) e,
        "größe".toList <+: stage.line.drop (stage.column - 1) ∧
          stage.pointer.lastLine = List.replicate (stage.column - 1) ' ' ++ ['^'] := by
  intro e fronts
  have hindex : e.index < e.tokens.length := by decide
  refine ⟨hindex, fun stage hstage => ?_⟩
  obtain ⟨-, hbegins, -, hcaret, -⟩ := (caret_outcome e).1 hindex fronts stage hstage
  exact ⟨hbegins, hcaret⟩

end ParseError

end LineDispatch
