import Mathlib.Data.List.Forall2
import LineDispatch.Proofs.Text.Decoding
import LineDispatch.Proofs.Tokens.Runs

/-!
# Nothing of a line is lost

The tokens of a line account for all its pieces.  The first pass joins runs of
pieces and the second runs of what the first has made, so that both together
join runs of pieces (`exists_flatten_of_map_eq_flatten`), and each run comes to
its own tokens in its place (`ofLine_runs`).

A run of more than one piece stands between two quotes, from the pass that
joined it, and so does a piece that begins with a quote, for both passes let it
stand alone.  The quotes around a token are therefore a pair, and as each is one
byte long, taking one byte off at either end takes off just that pair.
-/

namespace LineDispatch

/-- A list that is joined from parts after a function was applied is joined from parts before. -/
theorem exists_flatten_of_map_eq_flatten {α β : Type} {f : α → β} {xs : List α}
    {parts : List (List β)} (h : xs.map f = parts.flatten) :
    ∃ parts' : List (List α), parts'.flatten = xs ∧ parts'.map (List.map f) = parts := by
  induction parts generalizing xs with
  | nil => exact ⟨[], (List.map_eq_nil_iff.1 h).symm, rfl⟩
  | cons part rest ih =>
      obtain ⟨front, back, rfl, hfront, hback⟩ := List.map_eq_append_iff.1 h
      obtain ⟨parts', rfl, hparts⟩ := ih hback
      exact ⟨front :: parts', rfl, by rw [List.map_cons, hfront, hparts]⟩

namespace Tokens

/-- The tokens that a run of pieces comes to: an empty piece alone to none, a piece alone that does
not begin with a quote to itself, and pieces that stand between two equal quotes, when they are
joined, to what stands between these. -/
inductive Yields : List Text → List Text → Prop
  | empty : Yields [[]] []
  | bare {piece : Text} (hne : piece ≠ []) (hbare : ∀ c ∈ piece.head?, isQuote c = false) :
    Yields [piece] [piece]
  | quoted {run : List Text} {q : Char} {inner : Text} (hq : isQuote q = true)
    (hrun : Text.unwords run = q :: (inner ++ [q])) : Yields run [inner]

/-! ## The runs of both passes -/

/-- A run that both passes together join: one that the first has made and the second leaves alone,
or one that the second has made. -/
def FinalRun (run : List Text) : Prop :=
  (Run '"' run ∧ opensGroup '\'' (Text.unwords run) = false) ∨ Wrapped '\'' (Text.unwords run)

theorem FinalRun.ne_nil {run : List Text} (h : FinalRun run) : run ≠ [] := by
  rcases h with ⟨hrun, -⟩ | hwrapped
  · exact hrun.ne_nil
  · exact (Run.group hwrapped).ne_nil

theorem exists_runs_of_passes {pieces doubled grouped : List Text}
    (hdouble : groupFrom '"' pieces = .ok doubled) (hsingle : groupFrom '\'' doubled = .ok grouped) :
    ∃ runs : List (List Text), runs.flatten = pieces ∧ runs.map Text.unwords = grouped ∧
      ∀ run ∈ runs, FinalRun run := by
  obtain ⟨fine, rfl, rfl, hfine⟩ := exists_runs_of_groupFrom hdouble
  obtain ⟨coarse, hcoarse, rfl, hruns⟩ := exists_runs_of_groupFrom hsingle
  obtain ⟨parts, rfl, rfl⟩ := exists_flatten_of_map_eq_flatten hcoarse.symm
  have hjoin : ∀ part ∈ parts, Text.unwords (part.map Text.unwords) = Text.unwords part.flatten :=
    fun part hpart => Text.unwords_map_unwords <| nil_notMem_of_forall_run fun run hrun =>
      hfine run (List.mem_flatten_of_mem hpart hrun)
  refine ⟨parts.map List.flatten, List.flatten_flatten.symm, ?_, ?_⟩
  · rw [List.map_map, List.map_map]
    exact List.map_congr_left fun part hpart => (hjoin part hpart).symm
  · intro run hrun
    obtain ⟨part, hpart, rfl⟩ := List.mem_map.1 hrun
    have hpartRun : Run '\'' (part.map Text.unwords) := hruns _ (List.mem_map_of_mem hpart)
    generalize hjoined : part.map Text.unwords = joined at hpartRun
    cases hpartRun with
    | @alone piece hopen =>
        obtain ⟨only, rfl, rfl⟩ := List.map_eq_singleton_iff.1 hjoined
        rw [List.flatten_singleton]
        exact .inl ⟨hfine only (List.mem_flatten_of_mem hpart List.mem_cons_self), hopen⟩
    | group hwrapped =>
        rw [← hjoined, hjoin part hpart] at hwrapped
        exact .inr hwrapped

/-- A text that does not open a group of either kind begins with no quote or stands between two. -/
theorem wrapped_of_opensGroup_eq_false {t : Text} (hdouble : opensGroup '"' t = false)
    (hsingle : opensGroup '\'' t = false) :
    ∀ q ∈ t.head?, isQuote q = true → Wrapped q t := by
  intro q hq hquote
  have hopens : t.opensWith q = true := by
    rw [Text.opensWith, Option.mem_def.1 hq, beq_self_eq_true]
  rw [isQuote, Bool.or_eq_true, beq_iff_eq, beq_iff_eq] at hquote
  rcases hquote with rfl | rfl
  · exact opensGroup_eq_false_iff.1 hdouble hopens
  · exact opensGroup_eq_false_iff.1 hsingle hopens

/-- A run that begins with a quote when it is joined stands between two. -/
theorem FinalRun.wrapped {run : List Text} (h : FinalRun run) :
    ∀ q ∈ (Text.unwords run).head?, isQuote q = true → Wrapped q (Text.unwords run) := by
  rcases h with ⟨hrun, hsingle⟩ | ⟨inner, hinner⟩
  · exact wrapped_of_opensGroup_eq_false hrun.opensGroup_unwords hsingle
  · intro q hq _
    rw [hinner, List.head?_cons, Option.mem_some_iff] at hq
    subst hq
    exact ⟨inner, hinner⟩

/-- The tokens that a grouped text leaves: none if it is empty, and else itself without quotes. -/
def stripped (t : Text) : List Text := ([t].filter (· ≠ [])).map stripQuotes

theorem flatMap_stripped (grouped : List Text) :
    grouped.flatMap stripped = (grouped.filter (· ≠ [])).map stripQuotes := by
  induction grouped with
  | nil => rfl
  | cons t rest ih =>
      by_cases h : t = [] <;> simp [h, ih, stripped]

theorem FinalRun.yields {run : List Text} (h : FinalRun run) :
    Yields run (stripped (Text.unwords run)) := by
  by_cases hquote : ∃ q ∈ (Text.unwords run).head?, isQuote q = true
  · obtain ⟨q, hq, hquote⟩ := hquote
    obtain ⟨inner, hinner⟩ := h.wrapped q hq hquote
    have hleft : stripped (Text.unwords run) = [inner] := by
      simp [stripped, hinner, stripQuotes_quoted hquote]
    rw [hleft]
    exact .quoted hquote hinner
  · have hbare : ∀ c ∈ (Text.unwords run).head?, isQuote c = false := by
      intro c hc
      cases hc' : isQuote c with
      | false => rfl
      | true => exact absurd ⟨c, hc, hc'⟩ hquote
    -- Only a piece alone does not begin with a quote.
    obtain ⟨piece, rfl⟩ : ∃ piece, run = [piece] := by
      have hwrapped : ∀ {d}, isQuote d = true → ¬ Wrapped d (Text.unwords run) := by
        rintro d hd ⟨inner, hinner⟩
        exact hquote ⟨d, by rw [hinner]; rfl, hd⟩
      rcases h with ⟨hrun, -⟩ | hsingle
      · cases hrun with
        | alone _ => exact ⟨_, rfl⟩
        | group hdouble => exact absurd hdouble (hwrapped rfl)
      · exact absurd hsingle (hwrapped rfl)
    rw [Text.unwords_singleton] at hbare ⊢
    by_cases hne : piece = []
    · subst hne
      exact .empty
    · have hleft : stripped piece = [piece] := by
        simp [stripped, hne, stripQuotes_eq_self hbare]
      rw [hleft]
      exact .bare hne hbare

/-! ## Whole lines -/

/-- A quote is one byte long. -/
theorem encode_quoted {q : Char} (hq : isQuote q = true) (inner : Text) :
    Utf8.encode (q :: (inner ++ [q])) =
      UInt8.ofNat q.toNat :: (Utf8.encode inner ++ [UInt8.ofNat q.toNat]) := by
  have hone : Utf8.encode [q] = [UInt8.ofNat q.toNat] := by
    rw [isQuote, Bool.or_eq_true, beq_iff_eq, beq_iff_eq] at hq
    rcases hq with rfl | rfl <;> decide
  calc
    Utf8.encode (q :: (inner ++ [q])) = Utf8.encode ([q] ++ inner ++ [q]) := rfl
    _ = Utf8.encode [q] ++ Utf8.encode inner ++ Utf8.encode [q] := by
      rw [Utf8.encode_append, Utf8.encode_append]
    _ = _ := by rw [hone, List.singleton_append, List.cons_append]

/-- The pieces of a line are cut into runs, and the tokens of the line are what these yield, one
after the other.  Joined, the runs are what the two grouping passes make, and one of them that begins
with a quote, in its first byte, ends with the same quote, in its last byte: the bytes between are
those of the token that it yields. -/
theorem ofLine_runs {line : Text} {tokens : List Text} (h : ofLine line = .ok tokens) :
    ∃ runs yields : List (List Text), runs.flatten = pieces line.trim ∧ [] ∉ runs ∧
      List.Forall₂ Yields runs yields ∧ yields.flatten = tokens ∧
      group '"' (pieces line.trim) >>= group '\'' = .ok (runs.map Text.unwords) ∧
      ∀ grouped ∈ runs.map Text.unwords, ∀ q ∈ grouped.head?, isQuote q = true →
        grouped = q :: (stripQuotes grouped ++ [q]) ∧
          Utf8.encode grouped =
            UInt8.ofNat q.toNat :: (Utf8.encode (stripQuotes grouped) ++ [UInt8.ofNat q.toNat]) := by
  rw [ofLine_eq_ofPieces] at h
  obtain ⟨doubled, grouped, hdouble, hsingle, rfl⟩ := ofPieces_eq_ok_iff.1 h
  obtain ⟨runs, hflatten, rfl, hruns⟩ := exists_runs_of_passes hdouble hsingle
  refine ⟨runs, runs.map fun run => stripped (Text.unwords run), hflatten,
    fun hnil => (hruns [] hnil).ne_nil rfl, ?_, ?_, ?_, ?_⟩
  · rw [List.forall₂_map_right_iff, List.forall₂_same]
    exact fun run hrun => (hruns run hrun).yields
  · calc
      (runs.map fun run => stripped (Text.unwords run)).flatten =
          (runs.map Text.unwords).flatMap stripped := by rw [← List.flatMap_def, List.flatMap_map]
      _ = ((runs.map Text.unwords).filter (· ≠ [])).map stripQuotes := flatMap_stripped _
  · rw [bind_eq_ok_iff]
    exact ⟨doubled, group_eq_ok_iff.2 hdouble, group_eq_ok_iff.2 hsingle⟩
  · intro joined hjoined q hq hquote
    obtain ⟨run, hrun, rfl⟩ := List.mem_map.1 hjoined
    obtain ⟨inner, hinner⟩ := (hruns run hrun).wrapped q hq hquote
    rw [hinner, stripQuotes_quoted hquote]
    exact ⟨rfl, encode_quoted hquote inner⟩

/-- Runs of all kinds in one line: a bare piece, an empty one, a double-quoted span, a single-quoted
one with two spaces in a row, and two quotes with nothing between them. -/
theorem ofLine_runs_mixed :
    let line : Text := "\ta  \"b c\" 'd  e' \"\""
    let cut : List Text := ["a", [], "\"b", "c\"", "'d", [], "e'", "\"\""]
    let grouped : List Text := ["a", [], "\"b c\"", "'d  e'", "\"\""]
    let tokens : List Text := ["a", "b c", "d  e", []]
    ofLine line = .ok tokens ∧
      ∃ runs yields : List (List Text), runs.flatten = cut ∧ runs.map Text.unwords = grouped ∧
        List.Forall₂ Yields runs yields ∧ yields.flatten = tokens := by
  intro line cut grouped tokens
  have h : ofLine line = .ok tokens := by decide +kernel
  obtain ⟨runs, yields, hflatten, -, hyields, htokens, hgrouped, -⟩ := ofLine_runs h
  have hcut : pieces line.trim = cut := by decide +kernel
  have hpasses : group '"' (pieces line.trim) >>= group '\'' = .ok grouped := by decide +kernel
  rw [hpasses, Except.ok.injEq] at hgrouped
  exact ⟨h, runs, yields, hflatten.trans hcut, hgrouped.symm, hyields, htokens⟩

end Tokens

end LineDispatch
