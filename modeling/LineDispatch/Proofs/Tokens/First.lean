import LineDispatch.Proofs.Text.Trim
import LineDispatch.Proofs.Tokens.Spelling
import LineDispatch.Proofs.Tokens.Words

/-!
# The first token of a line

A grouping pass puts nothing in front of the first piece: the first group begins
with it, and is nothing more unless the piece opens a group
(`exists_first_of_groupFrom`).  Two things follow for a line that can be cut
into tokens at all.

* There is a first token unless the line is blank (`ofLine_eq_ok_nil_iff`), for
  a trimmed line that is not empty does not begin with a space.
* It is the bare word that the line begins with, if there is one
  (`head?_ofLine_of_startsBare`).  So what a line is about, told from its words
  or from its tokens, is the same for such lines.
-/

namespace LineDispatch.Tokens

variable {d : Char}

/-! ## The first piece -/

theorem exists_first_of_groupFrom {piece : Text} {rest grouped : List Text}
    (h : groupFrom d (piece :: rest) = .ok grouped) :
    ∃ first after, grouped = first :: after ∧ piece <+: first ∧
      (opensGroup d piece = false → first = piece) := by
  by_cases hopen : opensGroup d piece = true
  · cases hclose : closeGroup d rest with
    | none =>
        rw [groupFrom_cons_open hopen hclose] at h
        cases h
    | some closed =>
        obtain ⟨inside, after⟩ := closed
        rw [groupFrom_cons_closed hopen hclose, mapError_eq_ok_iff, map_eq_ok_iff] at h
        obtain ⟨tail, -, rfl⟩ := h
        refine ⟨_, tail, rfl, Text.prefix_unwords_cons piece inside, fun hsingle => ?_⟩
        rw [hopen] at hsingle
        cases hsingle
  · have hsingle : opensGroup d piece = false := by simpa using hopen
    rw [groupFrom_cons hsingle, mapError_eq_ok_iff, map_eq_ok_iff] at h
    obtain ⟨tail, -, rfl⟩ := h
    exact ⟨piece, tail, rfl, List.prefix_rfl, fun _ => rfl⟩

/-- A first piece that is not empty leads to a first token, and is that token if it does not begin
with a quote. -/
theorem exists_first_of_ofPieces {piece : Text} {rest ts : List Text} (hne : piece ≠ [])
    (h : ofPieces (piece :: rest) = .ok ts) :
    ∃ token after, ts = token :: after ∧
      ((∀ c ∈ piece.head?, isQuote c = false) → token = piece) := by
  obtain ⟨doubled, grouped, hdouble, hsingle, rfl⟩ := ofPieces_eq_ok_iff.1 h
  obtain ⟨first, after, rfl, hfirst, hself⟩ := exists_first_of_groupFrom hdouble
  obtain ⟨second, after', rfl, hsecond, hself'⟩ := exists_first_of_groupFrom hsingle
  have hne' : second ≠ [] := by
    rintro rfl
    exact hne (List.prefix_nil.1 (hfirst.trans hsecond))
  have hkeep : (second :: after').filter (· ≠ []) = second :: after'.filter (· ≠ []) :=
    List.filter_cons_of_pos (by simpa using hne')
  rw [hkeep, List.map_cons]
  refine ⟨_, _, rfl, fun hquote => ?_⟩
  have hpiece : first = piece := hself (opensGroup_eq_false_of_head rfl hquote)
  subst hpiece
  have hpiece : second = first := hself' (opensGroup_eq_false_of_head rfl hquote)
  subst hpiece
  exact stripQuotes_eq_self hquote

/-! ## Lines -/

/-- Only a blank line has no tokens. -/
theorem ofLine_eq_ok_nil_iff {line : Text} : ofLine line = .ok [] ↔ line.isBlank = true := by
  rw [← Text.trim_eq_nil_iff]
  constructor
  · intro h
    cases htrim : line.trim with
    | nil => rfl
    | cons c rest =>
        have hblank : blank c = false := Text.head?_trim line c (by rw [htrim]; rfl)
        have hc : c ≠ ' ' := by
          rintro rfl
          cases hblank
        rw [ofLine_eq_ofPieces, htrim, pieces_cons hc] at h
        obtain ⟨first, others, hpieces⟩ := List.exists_cons_of_ne_nil (pieces_ne_nil rest)
        rw [hpieces, List.modifyHead_cons] at h
        obtain ⟨token, after, htokens, -⟩ := exists_first_of_ofPieces (List.cons_ne_nil c first) h
        cases htokens
  · intro htrim
    rw [ofLine, if_pos htrim]

/-- Trimming leaves the bare word at the front, with a space or the end behind it. -/
theorem exists_trim_of_startsBare {w line : Text} (hw : Quoting.bare.Admits w)
    (h : StartsBare w line) : ∃ rest, line.trim = w ++ rest ∧ ∀ c ∈ rest.head?, c = ' ' := by
  obtain ⟨hne, -, hfirst, hlast⟩ := hw
  obtain ⟨n, rest, rfl, hrest⟩ := h
  obtain ⟨after, hafter, hblank⟩ := Text.exists_trailing blank rest
  have hend := Text.getLast?_dropTrailing blank rest
  have hsame : ∀ c ∈ (Text.dropTrailing blank rest).head?, c = ' ' := fun c hc =>
    hrest c (Text.head?_dropTrailing hc)
  generalize Text.dropTrailing blank rest = kept at hafter hend hsame
  refine ⟨kept, ?_, hsame⟩
  have hspaces : Text.isBlank (List.replicate n ' ') = true := by simp [Text.isBlank]
  have hafterBlank : Text.isBlank after = true := List.all_eq_true.2 hblank
  have hline : List.replicate n ' ' ++ w ++ rest = List.replicate n ' ' ++ (w ++ kept) ++ after := by
    rw [hafter]
    simp only [List.append_assoc]
  rw [hline]
  refine Text.trim_surrounded hspaces hafterBlank (fun c hc => ?_) (fun c hc => ?_)
  · rw [List.head?_append_of_ne_nil _ hne] at hc
    exact (hfirst c hc).2
  · cases kept with
    | nil =>
        rw [List.append_nil] at hc
        exact hlast c hc
    | cons k kept =>
        rw [List.getLast?_append_of_ne_nil _ (List.cons_ne_nil k kept)] at hc
        exact hend c hc

/-- The bare word that a line begins with is its first token. -/
theorem head?_ofLine_of_startsBare {w line : Text} (hw : Quoting.bare.Admits w)
    (h : StartsBare w line) {ts : List Text} (htokens : ofLine line = .ok ts) :
    ts.head? = some w := by
  obtain ⟨rest, htrim, hrest⟩ := exists_trim_of_startsBare hw h
  obtain ⟨hne, hspace, hfirst, -⟩ := hw
  have hpieces : ∃ others, pieces (w ++ rest) = w :: others := by
    cases rest with
    | nil => exact ⟨[], by rw [List.append_nil, pieces_eq_singleton hspace]⟩
    | cons c rest =>
        obtain rfl := hrest c rfl
        exact ⟨pieces rest, by rw [pieces_append_space, pieces_eq_singleton hspace]; rfl⟩
  obtain ⟨others, hpieces⟩ := hpieces
  rw [ofLine_eq_ofPieces, htrim, hpieces] at htokens
  obtain ⟨token, after, rfl, htoken⟩ := exists_first_of_ofPieces hne htokens
  rw [htoken fun c hc => (hfirst c hc).1]
  rfl

end LineDispatch.Tokens
