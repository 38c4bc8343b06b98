import LineDispatch.Proofs.Tokens.Grouping

/-!
# Spelled lines are read back

A token can be written into a line bare, in double quotes or in single quotes,
each way with its own condition on the token (`Quoting.Admits`).  A line that
spells a list of tokens writes each of them in some admissible way and puts at
least one space between two of them (`Spelled`).  The tokens of such a line are
the tokens that it spells, whatever blanks stand around it (`ofLine_spelled`).

The argument follows the line from left to right.  The pieces of one written
token are tokenized to just that token (`ofPieces_write`): a bare token is one
piece that opens no group, and a quoted one is a group that opens with its
first piece and is closed by its last, for its delimiter does not occur in
between (`closeGroup_pieces_concat`).  The other delimiter never opens a group
there: the double-quoted token is one piece by then, and a single-quoted one
holds no double quote.  An extra space is an empty piece, which is no token.
-/

namespace LineDispatch.Tokens

/-- The ways to write a token into a line. -/
inductive Quoting
  | bare
  | double
  | single
deriving DecidableEq, Repr

namespace Quoting

/-- The token as it is written. -/
def write : Quoting → Text → Text
  | .bare, t => t
  | .double, t => '"' :: (t ++ ['"'])
  | .single, t => '\'' :: (t ++ ['\''])

/-- Whether a token can be written in this way.  A bare token has a first character, which is
no quote, and no space; a blank at one of its ends would be trimmed off at an end of the line. -/
def Admits : Quoting → Text → Prop
  | .bare, t =>
    t ≠ [] ∧ ' ' ∉ t ∧ (∀ c ∈ t.head?, isQuote c = false ∧ blank c = false) ∧
      ∀ c ∈ t.getLast?, blank c = false
  | .double, t => '"' ∉ t
  | .single, t => '"' ∉ t ∧ '\'' ∉ t

instance (q : Quoting) (t : Text) : Decidable (q.Admits t) :=
  match q with
  | .bare =>
    -- Only the characters at the ends are tried, not all characters.
    haveI : Decidable (∀ c ∈ t.head?, isQuote c = false ∧ blank c = false) :=
      Option.decidableForallMem t.head?
    haveI : Decidable (∀ c ∈ t.getLast?, blank c = false) := Option.decidableForallMem t.getLast?
    inferInstanceAs (Decidable (_ ∧ _ ∧ _ ∧ _))
  | .double => inferInstanceAs (Decidable (_ ∉ t))
  | .single => inferInstanceAs (Decidable (_ ∉ t ∧ _ ∉ t))

variable {q : Quoting} {t : Text}

theorem write_ne_nil (h : q.Admits t) : q.write t ≠ [] := by
  cases q with
  | bare => exact h.1
  | double | single => simp [write]

theorem blank_head_write (h : q.Admits t) : ∀ c ∈ (q.write t).head?, blank c = false := by
  cases q with
  | bare => exact fun c hc => (h.2.2.1 c hc).2
  | double | single => simp [write]; decide

theorem blank_getLast_write (h : q.Admits t) : ∀ c ∈ (q.write t).getLast?, blank c = false := by
  cases q with
  | bare => exact h.2.2.2
  | double | single =>
      intro c hc
      rw [write, ← List.cons_append, List.getLast?_concat, Option.mem_some_iff] at hc
      subst hc
      rfl

end Quoting

/-- The line spells the tokens: each is written in an admissible way, and one or more spaces stand
between a token and the next. -/
inductive Spelled : List Text → Text → Prop
  | none : Spelled [] []
  | one (q : Quoting) {t : Text} (h : q.Admits t) : Spelled [t] (q.write t)
  | more (q : Quoting) {t : Text} (h : q.Admits t) (extra : Nat) {u : Text} {ts : List Text}
    {line : Text} (rest : Spelled (u :: ts) line) :
    Spelled (t :: u :: ts) (q.write t ++ List.replicate (extra + 1) ' ' ++ line)

/-! ## One written token -/

variable {d : Char}

theorem closesWith_cons_of_ne {c : Char} (hc : c ≠ d) (t : Text) :
    Text.closesWith d (c :: t) = Text.closesWith d t := by
  cases t with
  | nil => simp [hc]
  | cons e rest => simp

/-- In a text that holds the delimiter only at its end, the last piece closes the group. -/
theorem closeGroup_pieces_concat (hd : d ≠ ' ') {t : Text} (ht : d ∉ t) :
    closeGroup d (pieces (t ++ [d])) = some (pieces (t ++ [d]), []) := by
  induction t with
  | nil =>
      have hone : pieces [d] = [[d]] := pieces_eq_singleton (by simp [Ne.symm hd])
      simp [hone, closeGroup]
  | cons c t ih =>
      rw [List.mem_cons, not_or] at ht
      have hrest := ih ht.2
      by_cases hc : c = ' '
      · subst hc
        rw [List.cons_append, pieces_space_cons, closeGroup, hrest]
        rfl
      · rw [List.cons_append, pieces_cons hc]
        obtain ⟨first, rest, he⟩ := List.exists_cons_of_ne_nil (pieces_ne_nil (t ++ [d]))
        -- `c` is not the delimiter, so the longer first piece closes the group iff the old one does
        rw [he, closeGroup] at hrest
        rw [he, List.modifyHead_cons, closeGroup, closesWith_cons_of_ne (Ne.symm ht.1)]
        split at hrest
        · rename_i hclose
          rw [if_pos hclose]
          simp_all
        · rename_i hopen
          rw [if_neg hopen]
          obtain ⟨⟨i, a⟩, hr, hia⟩ := Option.map_eq_some_iff.1 hrest
          rw [hr]
          simp_all

/-- The pieces of a text between two delimiters are grouped into that text. -/
theorem groupFrom_pieces_quoted (hd : d ≠ ' ') {t : Text} (ht : d ∉ t) :
    groupFrom d (pieces (d :: (t ++ [d]))) = .ok [d :: (t ++ [d])] := by
  have hclose := closeGroup_pieces_concat hd ht
  have hjoin := unwords_pieces (t ++ [d])
  rw [pieces_cons hd]
  obtain ⟨first, rest, he⟩ := List.exists_cons_of_ne_nil (pieces_ne_nil (t ++ [d]))
  rw [he] at hclose hjoin ⊢
  rw [closeGroup] at hclose
  rw [List.modifyHead_cons]
  split at hclose
  · -- one piece, closed by its own end
    rename_i hend
    simp only [Option.some.injEq, Prod.mk.injEq, List.cons.injEq, true_and] at hclose
    obtain ⟨rfl, -⟩ := hclose
    have hfirst : first = t ++ [d] := by
      rw [← hjoin, Text.unwords_singleton]
    subst hfirst
    have hends : Text.closesWith d (d :: (t ++ [d])) = true := by
      rw [← List.cons_append, Text.closesWith_concat, beq_self_eq_true]
    rw [groupFrom_cons (by simp [opensGroup, hends]), groupFrom_nil]
    rfl
  · -- several pieces, closed by the last
    rename_i hopen
    obtain ⟨⟨inside, after⟩, hr, hia⟩ := Option.map_eq_some_iff.1 hclose
    simp only [Prod.mk.injEq, List.cons.injEq, true_and] at hia
    obtain ⟨rfl, rfl⟩ := hia
    have hopens : opensGroup d (d :: first) = true := by
      cases first with
      | nil => simp [opensGroup]
      | cons c tail => simp [opensGroup, hopen]
    rw [groupFrom_group hopens hr, Text.unwords_cons_word, hjoin]

/-- A written token is tokenized to itself. -/
theorem ofPieces_write {q : Quoting} {t : Text} (h : q.Admits t) :
    ofPieces (pieces (q.write t)) = .ok [t] := by
  cases q with
  | bare =>
      obtain ⟨hne, hspace, hfirst, -⟩ := h
      have hbare : ∀ piece ∈ [t], ∀ c ∈ piece.head?, isQuote c = false :=
        List.forall_mem_singleton.2 fun c hc => (hfirst c hc).1
      rw [Quoting.write, pieces_eq_singleton hspace, ofPieces_of_bare hbare]
      simp [hne]
  | double =>
      have hsingle : groupFrom '\'' ['"' :: (t ++ ['"'])] = .ok ['"' :: (t ++ ['"'])] :=
        groupFrom_of_forall_single (by simp [opensGroup])
      rw [ofPieces_eq_ok_iff]
      refine ⟨_, _, groupFrom_pieces_quoted (by decide) h, hsingle, ?_⟩
      simp [stripQuotes_quoted (d := '"') rfl]
  | single =>
      have hnone : ∀ piece ∈ pieces ('\'' :: (t ++ ['\''])), opensGroup '"' piece = false := by
        intro piece hp
        refine opensGroup_eq_false_of_notMem fun hmem => ?_
        have := mem_of_mem_pieces hp hmem
        simp [h.1] at this
      rw [ofPieces_eq_ok_iff]
      refine ⟨_, _, groupFrom_of_forall_single hnone, groupFrom_pieces_quoted (by decide) h.2, ?_⟩
      simp [stripQuotes_quoted (d := '\'') rfl]

/-! ## Whole lines -/

theorem pieces_append_spaces (x : Text) (extra : Nat) (y : Text) :
    pieces (x ++ List.replicate (extra + 1) ' ' ++ y) =
      pieces x ++ List.replicate extra [] ++ pieces y := by
  induction extra generalizing x with
  | zero => simp [pieces_append_space]
  | succ extra ih =>
      have hshift : x ++ List.replicate (extra + 1 + 1) ' ' ++ y =
          x ++ ' ' :: ([] ++ List.replicate (extra + 1) ' ' ++ y) := by
        simp [List.replicate_succ]
      rw [hshift, pieces_append_space, ih]
      simp [List.replicate_succ]

theorem ofPieces_replicate_nil (n : Nat) : ofPieces (List.replicate n []) = .ok [] := by
  rw [ofPieces_of_bare (by simp +contextual)]
  simp

theorem ofPieces_spelled {ts : List Text} {line : Text} (h : Spelled ts line) :
    ofPieces (pieces line) = .ok ts := by
  induction h with
  | none => exact ofPieces_replicate_nil 1
  | one q h => exact ofPieces_write h
  | @more q t h extra u ts line rest ih =>
      rw [pieces_append_spaces]
      have hfront := ofPieces_append (ofPieces_write h) (ofPieces_replicate_nil extra)
      exact ofPieces_append hfront ih

theorem Spelled.blank_head {ts : List Text} {line : Text} (h : Spelled ts line) :
    ∀ c ∈ line.head?, blank c = false := by
  cases h with
  | none => simp
  | one q h => exact q.blank_head_write h
  | more q h extra rest =>
      intro c hc
      rw [List.append_assoc, List.head?_append] at hc
      have hhead := q.blank_head_write h
      cases hw : (q.write _).head? with
      | none => exact absurd (List.head?_eq_none_iff.1 hw) (q.write_ne_nil h)
      | some first =>
          rw [hw] at hc hhead
          exact hhead c hc

theorem Spelled.ne_nil {t : Text} {ts : List Text} {line : Text} (h : Spelled (t :: ts) line) :
    line ≠ [] := by
  cases h with
  | one q h => exact q.write_ne_nil h
  | more q h extra rest => simp [q.write_ne_nil h]

theorem Spelled.blank_getLast {ts : List Text} {line : Text} (h : Spelled ts line) :
    ∀ c ∈ line.getLast?, blank c = false := by
  induction h with
  | none => simp
  | one q h => exact q.blank_getLast_write h
  | more q h extra rest ih =>
      intro c hc
      rw [List.getLast?_append] at hc
      cases hl : List.getLast? _ with
      | none => exact absurd (List.getLast?_eq_none_iff.1 hl) rest.ne_nil
      | some last =>
          rw [hl] at hc ih
          exact ih c hc

/-- The tokens of a line that spells tokens are these tokens, whatever blanks surround it. -/
theorem ofLine_spelled {ts : List Text} {line before after : Text} (h : Spelled ts line)
    (hbefore : before.isBlank = true) (hafter : after.isBlank = true) :
    ofLine (before ++ line ++ after) = .ok ts := by
  rw [ofLine_eq_ofPieces, Text.trim_surrounded hbefore hafter h.blank_head h.blank_getLast]
  exact ofPieces_spelled h

/-- All three ways of writing in one line, with quotes inside a bare token, an empty token, the
other quote and outer spaces inside a span, and an uneven number of spaces. -/
theorem ofLine_spelled_mixed :
    let tokens : List Text := ["don't\"", [], " 'a' ", "b  c"]
    let line : Text := "don't\" \"\" \" 'a' \"   'b  c'"
    let before : Text := "\t "
    let after : Text := "\n"
    Spelled tokens line ∧ before.isBlank = true ∧ after.isBlank = true ∧
      ofLine (before ++ line ++ after) = .ok tokens := by
  intro tokens line before after
  have h : Spelled tokens line :=
    .more .bare (by decide) 0
      (.more .double (by decide) 0 (.more .double (by decide) 2 (.one .single (by decide))))
  exact ⟨h, rfl, rfl, ofLine_spelled h rfl rfl⟩

end LineDispatch.Tokens
