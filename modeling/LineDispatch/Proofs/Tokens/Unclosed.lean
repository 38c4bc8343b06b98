import LineDispatch.Proofs.Tokens.Runs

/-!
# Quotes that are never closed

A line cannot be cut into tokens if one of its two grouping passes fails.  The
second pass works on what the first has joined, but joining keeps the line, and
so the error is told on the line that was typed, whichever pass raises it
(`ofPieces_unclosed`).  In front of the piece that opens the group stand the
pieces before it, each with the space behind it that it had in the line, and so
the column of the error is that of the quote (`ofLine_unclosed`).
-/

namespace LineDispatch.Tokens

theorem group_unclosed {d : Char} {pieces : List Text} {e : ParseError}
    (h : group d pieces = .error e) :
    ∃ front piece back, pieces = front ++ piece :: back ∧
      e = ⟨.unclosedGroup d, pieces, front.length⟩ ∧ opensGroup d piece = true ∧
      ∀ later ∈ back, later.closesWith d = false := by
  obtain ⟨i, hi, rfl⟩ := group_eq_error_iff.1 h
  obtain ⟨front, piece, back, -, hpieces, rfl, -, hopen, hback⟩ := groupFrom_eq_error_iff.1 hi
  exact ⟨front, piece, back, hpieces, rfl, hopen, hback⟩

/-- One of the passes fails at a piece that opens a group, and it fails on pieces that make the line
of the ones to begin with. -/
theorem ofPieces_unclosed {pieces : List Text} {e : ParseError} (h : ofPieces pieces = .error e) :
    ∃ d front piece back, isQuote d = true ∧
      e = ⟨.unclosedGroup d, front ++ piece :: back, front.length⟩ ∧
      Text.unwords (front ++ piece :: back) = Text.unwords pieces ∧
      opensGroup d piece = true ∧ ∀ later ∈ back, later.closesWith d = false := by
  unfold ofPieces at h
  rcases bind_eq_error_iff.1 h with hdouble | ⟨doubled, hdoubled, h⟩
  · obtain ⟨front, piece, back, rfl, rfl, hopen, hback⟩ := group_unclosed hdouble
    exact ⟨'"', front, piece, back, rfl, rfl, rfl, hopen, hback⟩
  · rcases bind_eq_error_iff.1 h with hsingle | ⟨grouped, -, h⟩
    -- The second pass fails on what the first has joined.
    · have hline : Text.unwords doubled = Text.unwords pieces :=
        unwords_of_groupFrom (group_eq_ok_iff.1 hdoubled)
      obtain ⟨front, piece, back, rfl, rfl, hopen, hback⟩ := group_unclosed hsingle
      exact ⟨'\'', front, piece, back, rfl, rfl, hline, hopen, hback⟩
    · cases h

theorem column_append_cons (fault : ParseFault) (front : List Text) (piece : Text)
    (back : List Text) :
    (⟨fault, front ++ piece :: back, front.length⟩ : ParseError).column =
      (front.flatMap (· ++ [' '])).length + 1 := by
  rw [ParseError.column, List.take_left]

/-- Behind the words in front of another one stands a space. -/
theorem flatMap_space_eq_nil_or_closesWith (front : List Text) :
    front.flatMap (· ++ [' ']) = [] ∨
      Text.closesWith ' ' (front.flatMap (· ++ [' '])) = true := by
  by_cases h : front = []
  · rw [h]
    exact .inl rfl
  · refine .inr ?_
    rw [← List.dropLast_concat_getLast h, List.flatMap_append, List.flatMap_singleton,
      ← List.append_assoc, Text.closesWith_concat, beq_self_eq_true]

/-- A line that cannot be cut into tokens has a quote that is never closed.  The error tells the
line as it was typed, trimmed, and the column of that quote, which stands at the front or behind a
space, and none of the tokens behind it in the error ends in such a quote. -/
theorem ofLine_unclosed {line : Text} {e : ParseError} (h : ofLine line = .error e) :
    ∃ d before after, isQuote d = true ∧ e.fault = .unclosedGroup d ∧ e.line = line.trim ∧
      line.trim = before ++ d :: after ∧ e.column = before.length + 1 ∧
      (before = [] ∨ before.closesWith ' ' = true) ∧
      e.index < e.tokens.length ∧
      ∀ token ∈ e.tokens.drop (e.index + 1), token.closesWith d = false := by
  rw [ofLine_eq_ofPieces] at h
  obtain ⟨d, front, piece, back, hd, rfl, hline, hopen, hback⟩ := ofPieces_unclosed h
  rw [unwords_pieces] at hline
  obtain ⟨first, rfl⟩ := exists_cons_of_opensGroup hopen
  obtain ⟨others, hothers⟩ := Text.prefix_unwords_cons (d :: first) back
  refine ⟨d, front.flatMap (· ++ [' ']), first ++ others, hd, rfl, hline, ?_,
    column_append_cons _ front _ back, flatMap_space_eq_nil_or_closesWith front, ?_, ?_⟩
  · rw [← hline, Text.unwords_append_cons, ← hothers, List.cons_append]
  · simp
  · simpa using hback

/-- The second pass fails, behind a group that the first has closed, two spaces in a row and a
character of more than one byte. -/
theorem ofLine_unclosed_second :
    let line : Text := " a  \"b c\" é 'd  e\t"
    let e : ParseError :=
      ⟨.unclosedGroup '\'', ["a", [], "\"b c\"", "é", "'d", [], "e"], 4⟩
    ofLine line = .error e ∧ e.line = "a  \"b c\" é 'd  e".toList ∧ e.column = 12 ∧
      line.trim[11]? = some '\'' ∧ line.trim[10]? = some ' ' := by
  intro line e
  have h : ofLine line = .error e := by decide +kernel
  obtain ⟨d, before, after, -, hfault, hline, htrim, hcolumn, hspace, -, -⟩ := ofLine_unclosed h
  cases hfault
  have htyped : line.trim = "a  \"b c\" é 'd  e".toList := by decide +kernel
  have hlength : before.length = 11 := by
    have hcolumn' : e.column = 12 := by decide +kernel
    omega
  refine ⟨h, hline.trans htyped, by rw [hcolumn, hlength], ?_, ?_⟩
  · rw [htrim, ← hlength]
    simp
  · rw [htyped]
    decide +kernel

end LineDispatch.Tokens
