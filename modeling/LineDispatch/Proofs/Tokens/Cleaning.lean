import Mathlib.Data.List.Forall2
import LineDispatch.Proofs.Text.Trim
import LineDispatch.Proofs.Tokens.Runs

/-!
# Two ways to take the delimiters off

A grouping pass leaves the delimiters on its tokens.  `groupAndClean` takes them
off for one delimiter of any kind; a line takes off what quotes are left when
both passes are done.  After a pass every token that begins with the delimiter
stands between two of them, so both ways take off just that pair
(`cleaned_stripDelimiters`).

Where no single quote occurs, the second pass of a line finds nothing to do, and
the line is cut, grouped and cleaned as its pieces are by `groupAndClean`
(`groupAndClean_outcome`).
-/

namespace LineDispatch.Tokens

variable {d : Char} {pieces grouped : List Text}

/-- Whether a text is what cleaning leaves of a grouped token: the token without one delimiter at
each end if it begins with the delimiter, and else the token as it is. -/
def Cleaned (d : Char) (token clean : Text) : Prop :=
  (token.opensWith d = true → token = d :: (clean ++ [d])) ∧
    (token.opensWith d = false → clean = token)

/-! ## One token -/

theorem stripDelimiters_wrapped (d : Char) (inner : Text) :
    stripDelimiters d (d :: (inner ++ [d])) = inner := by
  simp [stripDelimiters]

theorem stripDelimiters_eq_self {token : Text} (h : token.opensWith d = false) :
    stripDelimiters d token = token := by
  cases token with
  | nil => rfl
  | cons c rest =>
      have hc : c ≠ d := by simpa using h
      simp [stripDelimiters, hc]

/-- A token that opens no group is cleaned of a whole pair or left alone. -/
theorem cleaned_stripDelimiters {token : Text} (h : opensGroup d token = false) :
    Cleaned d token (stripDelimiters d token) := by
  constructor
  · intro hopens
    obtain ⟨inner, rfl⟩ := opensGroup_eq_false_iff.1 h hopens
    rw [stripDelimiters_wrapped]
  · exact stripDelimiters_eq_self

/-- Where the other quote does not occur, the two ways to clean a token agree. -/
theorem stripQuotes_eq_stripDelimiters {token : Text} (h : opensGroup '"' token = false)
    (hsingle : '\'' ∉ token) : stripQuotes token = stripDelimiters '"' token := by
  cases hopens : token.opensWith '"' with
  | true =>
      obtain ⟨inner, rfl⟩ := opensGroup_eq_false_iff.1 h hopens
      rw [stripDelimiters_wrapped, stripQuotes_quoted rfl]
  | false =>
      rw [stripDelimiters_eq_self hopens]
      apply stripQuotes_eq_self
      intro c hc
      have hdouble : c ≠ '"' := by
        rintro rfl
        rw [Text.opensWith, Option.mem_def.1 hc] at hopens
        cases hopens
      have hother : c ≠ '\'' := by
        rintro rfl
        exact hsingle (List.mem_of_mem_head? hc)
      simp [isQuote, hdouble, hother]

/-! ## What a pass leaves of its pieces -/

theorem ne_nil_of_mem_grouped (h : groupFrom d pieces = .ok grouped)
    (hpieces : ∀ piece ∈ pieces, piece ≠ []) : ∀ token ∈ grouped, token ≠ [] := by
  obtain ⟨runs, rfl, rfl, hruns⟩ := exists_runs_of_groupFrom h
  intro token htoken
  obtain ⟨run, hrun, rfl⟩ := List.mem_map.1 htoken
  cases hruns run hrun with
  | alone _ =>
      rw [Text.unwords_singleton]
      exact hpieces _ (List.mem_flatten_of_mem hrun List.mem_cons_self)
  | group hwrapped => exact List.ne_nil_of_length_pos (Nat.lt_of_succ_lt hwrapped.one_lt_length)

theorem notMem_of_mem_grouped (h : groupFrom d pieces = .ok grouped) {c : Char} (hc : c ≠ ' ')
    (hpieces : ∀ piece ∈ pieces, c ∉ piece) : ∀ token ∈ grouped, c ∉ token := by
  intro token htoken hmem
  have hline : c ∈ Text.unwords pieces := by
    rw [← unwords_of_groupFrom h]
    exact mem_unwords_of_mem htoken hmem
  obtain ⟨piece, hpiece, hin⟩ := Text.mem_of_mem_unwords hc hline
  exact hpieces piece hpiece hin

/-! ## Whole lists of pieces -/

theorem groupAndClean_of_group (h : group d pieces = .ok grouped) :
    groupAndClean d pieces = .ok (grouped.map (stripDelimiters d)) := by
  rw [groupAndClean, h]
  rfl

theorem ofPieces_eq_groupAndClean (h : ∀ piece ∈ pieces, piece ≠ [] ∧ '\'' ∉ piece) :
    ofPieces pieces = groupAndClean '"' pieces := by
  cases hgroup : group '"' pieces with
  | error e =>
      rw [ofPieces, groupAndClean, hgroup]
      rfl
  | ok grouped =>
      have hpass : groupFrom '"' pieces = .ok grouped := group_eq_ok_iff.1 hgroup
      have hne : ∀ token ∈ grouped, token ≠ [] :=
        ne_nil_of_mem_grouped hpass fun piece hp => (h piece hp).1
      have hsingle : ∀ token ∈ grouped, '\'' ∉ token :=
        notMem_of_mem_grouped hpass (by decide) fun piece hp => (h piece hp).2
      -- The second pass has no group to close, and no token is empty.
      have hsecond : groupFrom '\'' grouped = .ok grouped := by
        apply groupFrom_of_forall_single
        intro token htoken
        exact opensGroup_eq_false_of_notMem (hsingle token htoken)
      have hfilter : grouped.filter (· ≠ []) = grouped := by
        rw [List.filter_eq_self]
        intro token htoken
        simpa using hne token htoken
      rw [groupAndClean_of_group hgroup, ofPieces_eq_ok_iff]
      refine ⟨grouped, grouped, hpass, hsecond, ?_⟩
      rw [hfilter]
      apply List.map_congr_left
      intro token htoken
      exact stripQuotes_eq_stripDelimiters (opensGroup_of_mem_grouped hpass htoken)
        (hsingle token htoken)

theorem ofLine_unwords (hne : pieces ≠ []) (hpieces : ∀ piece ∈ pieces, ' ' ∉ piece)
    (hfirst : ∀ c ∈ (Text.unwords pieces).head?, blank c = false)
    (hlast : ∀ c ∈ (Text.unwords pieces).getLast?, blank c = false) :
    ofLine (Text.unwords pieces) = ofPieces pieces := by
  rw [ofLine_eq_ofPieces, Text.trim_eq_self hfirst hlast, pieces_unwords hpieces hne]

/-- A line of pieces that are not empty and hold no single quote comes to the same as grouping and
cleaning these pieces, tokens and errors alike.  For any delimiter, cleaning takes exactly one
delimiter off each end of a grouped token that begins with it and leaves the others alone. -/
theorem groupAndClean_outcome (pieces : List Text) :
    (pieces ≠ [] → (∀ piece ∈ pieces, piece ≠ [] ∧ ' ' ∉ piece ∧ '\'' ∉ piece) →
      (∀ c ∈ (Text.unwords pieces).head?, blank c = false) →
      (∀ c ∈ (Text.unwords pieces).getLast?, blank c = false) →
      ofLine (Text.unwords pieces) = groupAndClean '"' pieces) ∧
      ∀ d grouped, group d pieces = .ok grouped →
        ∃ cleaned, groupAndClean d pieces = .ok cleaned ∧
          List.Forall₂ (Cleaned d) grouped cleaned := by
  constructor
  · intro hne hpieces hfirst hlast
    rw [ofLine_unwords hne (fun piece hp => (hpieces piece hp).2.1) hfirst hlast]
    exact ofPieces_eq_groupAndClean fun piece hp =>
      ⟨(hpieces piece hp).1, (hpieces piece hp).2.2⟩
  · intro d grouped hgroup
    refine ⟨_, groupAndClean_of_group hgroup, ?_⟩
    rw [List.forall₂_map_right_iff, List.forall₂_same]
    intro token htoken
    exact cleaned_stripDelimiters (opensGroup_of_mem_grouped (group_eq_ok_iff.1 hgroup) htoken)

/-- Two lines with quotes inside a piece, two in a row and a group of three pieces, one of them with
a group that is never closed, and pieces grouped by another delimiter. -/
theorem groupAndClean_outcome_mixed :
    let closed : List Text := ["say\"", "\"\"", "\"b", "c\"d", "e\"\""]
    let unclosed : List Text := ["say", "\"b", "c\"", "\"d"]
    let barred : List Text := ["¦a", "b¦", "c¦", "¦¦"]
    let grouped : List Text := ["¦a b¦", "c¦", "¦¦"]
    ofLine (Text.unwords closed) = groupAndClean '"' closed ∧
      groupAndClean '"' closed = .ok ["say\"", [], "b c\"d e\""] ∧
      ofLine (Text.unwords unclosed) = groupAndClean '"' unclosed ∧
      groupAndClean '"' unclosed = .error ⟨.unclosedGroup '"', unclosed, 3⟩ ∧
      group '¦' barred = .ok grouped ∧
      ∃ cleaned, groupAndClean '¦' barred = .ok cleaned ∧
        List.Forall₂ (Cleaned '¦') grouped cleaned := by
  intro closed unclosed barred grouped
  have hgroup : group '¦' barred = .ok grouped := by decide +kernel
  refine ⟨(groupAndClean_outcome closed).1 (by decide) (by decide) ?_ ?_, by decide +kernel,
    (groupAndClean_outcome unclosed).1 (by decide) (by decide) ?_ ?_, by decide +kernel,
    hgroup, (groupAndClean_outcome barred).2 '¦' grouped hgroup⟩
  all_goals
    intro c hc
    cases hc
    rfl

end LineDispatch.Tokens
