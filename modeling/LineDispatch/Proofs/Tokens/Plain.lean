import LineDispatch.Proofs.Tokens.Conservation

/-!
# Lines that are only cut

A line is only cut at its spaces if none of its pieces begins with a quote,
wherever else quotes stand, and in no other case (`ofLine_eq_plain_iff`).

If no piece begins with a quote, none opens a group and there is nothing to take
off.  The converse counts quotes.  Joining pieces puts spaces between them and
keeps their quotes, and a run that stands between two quotes then loses these
two.  So a line whose pieces are grouped holds more quotes than its tokens, and
as many as its words.
-/

namespace LineDispatch.Tokens

/-- The number of quotes in some texts. -/
def quoteCount (texts : List Text) : Nat := texts.flatten.countP isQuote

theorem quoteCount_append (front back : List Text) :
    quoteCount (front ++ back) = quoteCount front + quoteCount back := by
  rw [quoteCount, List.flatten_append, List.countP_append]
  rfl

/-- The words of a text hold all its quotes. -/
theorem quoteCount_plain (t : Text) : quoteCount (plain t) = quoteCount (pieces t) := by
  simp only [quoteCount, plain, List.flatten_filter_ne_nil]

theorem quoteCount_eq_of_unwords {run : List Text} {t : Text} (h : Text.unwords run = t) :
    quoteCount run = t.countP isQuote := by
  rw [← h, Text.countP_unwords (by decide), quoteCount]

/-! ## Quotes that are lost -/

variable {run tokens : List Text}

/-- A run loses its two quotes, or it is a piece alone that does not begin with one. -/
theorem Yields.quoteCount_or (h : Yields run tokens) :
    quoteCount run = quoteCount tokens + 2 ∨
      quoteCount run = quoteCount tokens ∧ ∀ piece ∈ run, ∀ c ∈ piece.head?, isQuote c = false := by
  cases h with
  | empty => exact .inr ⟨rfl, by simp⟩
  | bare hne hbare => exact .inr ⟨rfl, by simpa using hbare⟩
  | @quoted _ q inner hq hrun =>
      left
      rw [quoteCount_eq_of_unwords hrun, quoteCount, List.flatten_singleton, List.countP_cons,
        List.countP_append, List.countP_singleton, if_pos hq]

theorem quoteCount_flatMap_stripped_le {runs : List (List Text)} (h : ∀ run ∈ runs, FinalRun run) :
    quoteCount ((runs.map Text.unwords).flatMap stripped) ≤ quoteCount runs.flatten := by
  induction runs with
  | nil => exact Nat.le_refl _
  | cons run rest ih =>
      have hrest := ih fun r hr => h r (List.mem_cons_of_mem _ hr)
      have hrun := (h run List.mem_cons_self).yields.quoteCount_or
      rw [List.map_cons, List.flatMap_cons, List.flatten_cons, quoteCount_append, quoteCount_append]
      omega

/-- If a piece begins with a quote, the tokens hold fewer quotes than the pieces. -/
theorem quoteCount_lt_of_ofPieces {pieces : List Text} (h : ofPieces pieces = .ok tokens)
    {piece : Text} (hpiece : piece ∈ pieces) {q : Char} (hhead : q ∈ piece.head?)
    (hq : isQuote q = true) : quoteCount tokens < quoteCount pieces := by
  obtain ⟨doubled, grouped, hdouble, hsingle, rfl⟩ := ofPieces_eq_ok_iff.1 h
  obtain ⟨runs, rfl, rfl, hruns⟩ := exists_runs_of_passes hdouble hsingle
  obtain ⟨run, hrun, hmem⟩ := List.mem_flatten.1 hpiece
  -- The run of that piece loses two quotes, and no run before or behind it gains one.
  have hlost : quoteCount run = quoteCount (stripped (Text.unwords run)) + 2 := by
    rcases (hruns run hrun).yields.quoteCount_or with hlost | ⟨-, hbare⟩
    · exact hlost
    · rw [hbare piece hmem q hhead] at hq
      cases hq
  obtain ⟨front, back, rfl⟩ := List.append_of_mem hrun
  have hfront := quoteCount_flatMap_stripped_le fun r hr => hruns r (List.mem_append_left _ hr)
  have hback := quoteCount_flatMap_stripped_le fun r hr =>
    hruns r (List.mem_append_right _ (List.mem_cons_of_mem _ hr))
  rw [← flatMap_stripped]
  simp only [List.map_append, List.map_cons, List.flatMap_append, List.flatMap_cons,
    List.flatten_append, List.flatten_cons, quoteCount_append]
  omega

/-! ## Whole lines -/

/-- The tokens of a line are its words if and only if no piece of it begins with a quote.  A line
without quotes is such a line.  If a piece begins with a quote and the line has tokens at all, they
hold fewer quotes than its words. -/
theorem ofLine_eq_plain_iff (line : Text) :
    (ofLine line = .ok (plain line.trim) ↔
      ∀ piece ∈ pieces line.trim, ∀ c ∈ piece.head?, isQuote c = false) ∧
      (line.any isQuote = false → ofLine line = .ok (plain line.trim)) ∧
      ∀ piece ∈ pieces line.trim, ∀ q ∈ piece.head?, isQuote q = true →
        ∀ tokens, ofLine line = .ok tokens → quoteCount tokens < quoteCount (plain line.trim) := by
  have hlost : ∀ piece ∈ pieces line.trim, ∀ q ∈ piece.head?, isQuote q = true →
      ∀ tokens, ofLine line = .ok tokens → quoteCount tokens < quoteCount (plain line.trim) := by
    intro piece hpiece q hhead hq tokens htokens
    rw [ofLine_eq_ofPieces] at htokens
    rw [quoteCount_plain]
    exact quoteCount_lt_of_ofPieces htokens hpiece hhead hq
  refine ⟨⟨?_, ?_⟩, ofLine_of_no_quote, hlost⟩
  · intro h piece hpiece c hc
    cases hquote : isQuote c with
    | false => rfl
    | true => exact absurd (hlost piece hpiece c hc hquote _ h) (Nat.lt_irrefl _)
  · intro hbare
    rw [ofLine_eq_ofPieces]
    exact ofPieces_of_bare hbare

/-- Quotes inside a word and at its end stay where they are, whether or not they are paired.  Behind
a piece that begins with a quote the line is no longer its words. -/
theorem ofLine_eq_plain_iff_inside :
    let inside : Text := " don't  say\" it'"
    let words : List Text := ["don't", "say\"", "it'"]
    let grouped : Text := "don't 'say it'"
    let tokens : List Text := ["don't", "say it"]
    ofLine inside = .ok (plain inside.trim) ∧ plain inside.trim = words ∧
      ofLine grouped = .ok tokens ∧ quoteCount tokens < quoteCount (plain grouped.trim) := by
  intro inside words grouped tokens
  have hbare : ∀ piece ∈ pieces inside.trim, ∀ c ∈ piece.head?, isQuote c = false := by
    have hpieces : pieces inside.trim = (["don't", [], "say\"", "it'"] : List Text) := by
      decide +kernel
    rw [hpieces]
    intro piece hpiece c hc
    simp only [List.mem_cons, List.not_mem_nil, or_false] at hpiece
    rcases hpiece with rfl | rfl | rfl | rfl
    all_goals cases hc <;> rfl
  have hgrouped : ofLine grouped = .ok tokens := by decide +kernel
  obtain ⟨hplain, -, -⟩ := ofLine_eq_plain_iff inside
  obtain ⟨-, -, hlost⟩ := ofLine_eq_plain_iff grouped
  refine ⟨hplain.2 hbare, by decide +kernel, hgrouped, ?_⟩
  exact hlost "'say" (by decide +kernel) '\'' rfl rfl _ hgrouped

end LineDispatch.Tokens
