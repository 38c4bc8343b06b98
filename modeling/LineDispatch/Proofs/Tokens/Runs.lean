import LineDispatch.Proofs.Tokens.Grouping

/-!
# What one grouping pass makes of its pieces

A pass that succeeds has cut its pieces into runs and joined each of them
(`exists_runs_of_groupFrom`).  A run is a piece alone that opens no group, or it
is a group, and then it stands between two delimiters when it is joined
(`Run`).  Two things follow: the line of the pieces stays as it is, for joining
is done with the spaces that the cutting took out, and none of the new pieces
opens a group, so that a second pass finds nothing to do.

A pass that fails does so at the first piece that opens a group behind which
nothing closes one.  Together these say what a pass comes to on every list of
pieces (`group_outcome`).
-/

namespace LineDispatch.Tokens

variable {d : Char} {t : Text}

/-! ## Texts between two delimiters -/

/-- Whether a text stands between two delimiters. -/
def Wrapped (d : Char) (t : Text) : Prop := ∃ inner, t = d :: (inner ++ [d])

theorem Wrapped.closesWith (h : Wrapped d t) : t.closesWith d = true := by
  obtain ⟨inner, rfl⟩ := h
  rw [← List.cons_append, Text.closesWith_concat, beq_self_eq_true]

theorem Wrapped.one_lt_length (h : Wrapped d t) : 1 < t.length := by
  obtain ⟨inner, rfl⟩ := h
  rw [List.length_cons, List.length_append, List.length_singleton]
  omega

/-- A piece that begins with the delimiter opens no group only if it is closed by its own end. -/
theorem opensGroup_eq_false_iff :
    opensGroup d t = false ↔ (t.opensWith d = true → Wrapped d t) := by
  constructor
  · intro h hopens
    cases t with
    | nil => cases hopens
    | cons c rest =>
        obtain rfl : c = d := by simpa using hopens
        by_cases hrest : rest = []
        · rw [hrest] at h
          simp [opensGroup] at h
        · obtain ⟨inner, last, rfl⟩ : ∃ inner last, rest = inner ++ [last] :=
            ⟨_, _, (List.dropLast_concat_getLast hrest).symm⟩
          have hlast : last = c := by
            rw [opensGroup, ← List.cons_append, Text.closesWith_concat] at h
            simpa using h
          exact ⟨inner, by rw [hlast]⟩
  · intro h
    by_cases hopens : t.opensWith d = true
    · have hwrapped : Wrapped d t := h hopens
      have hne : t ≠ [d] := by
        rintro rfl
        exact absurd hwrapped.one_lt_length (Nat.lt_irrefl 1)
      simp [opensGroup, hne, hwrapped.closesWith]
    · simp [opensGroup, hopens]

/-- The pieces of a group, joined, stand between its delimiters. -/
theorem wrapped_unwords_group {piece : Text} (hopen : opensGroup d piece = true)
    {rest inside after : List Text} (hclose : closeGroup d rest = some (inside, after)) :
    Wrapped d (Text.unwords (piece :: inside)) := by
  obtain ⟨front, last, rfl, -, hlast, -⟩ := closeGroup_eq_some_iff.1 hclose
  obtain ⟨first, rfl⟩ := exists_cons_of_opensGroup hopen
  obtain ⟨final, rfl⟩ : ∃ final, last = final ++ [d] := by
    rw [Text.closesWith, beq_iff_eq] at hlast
    exact List.getLast?_eq_some_iff.1 hlast
  obtain ⟨between, hbetween⟩ := Text.suffix_unwords_concat front (final ++ [d])
  refine ⟨first ++ ' ' :: (between ++ final), ?_⟩
  rw [Text.unwords_cons _ (by simp), ← hbetween]
  simp

/-! ## Runs -/

/-- The runs of pieces that a pass joins: one piece that opens no group, or the pieces of a group,
which stand between two delimiters when they are joined. -/
inductive Run (d : Char) : List Text → Prop
  | alone {piece : Text} (h : opensGroup d piece = false) : Run d [piece]
  | group {run : List Text} (h : Wrapped d (Text.unwords run)) : Run d run

theorem Run.ne_nil {run : List Text} (h : Run d run) : run ≠ [] := by
  rintro rfl
  cases h with
  | group h => exact absurd h.one_lt_length (Nat.not_lt_zero 1)

theorem Run.opensGroup_unwords {run : List Text} (h : Run d run) :
    opensGroup d (Text.unwords run) = false := by
  cases h with
  | alone h => rwa [Text.unwords_singleton]
  | group h => exact opensGroup_eq_false_iff.2 fun _ => h

theorem exists_runs_of_groupFrom {pieces grouped : List Text}
    (h : groupFrom d pieces = .ok grouped) :
    ∃ runs : List (List Text), runs.flatten = pieces ∧ runs.map Text.unwords = grouped ∧
      ∀ run ∈ runs, Run d run := by
  induction pieces using groupFrom_induction (d := d) generalizing grouped with
  | nil =>
      rw [groupFrom_nil] at h
      cases h
      exact ⟨[], rfl, rfl, by simp⟩
  | single piece rest hopen ih =>
      rw [groupFrom_cons hopen, mapError_eq_ok_iff, map_eq_ok_iff] at h
      obtain ⟨tail, hrest, rfl⟩ := h
      obtain ⟨runs, rfl, rfl, hruns⟩ := ih hrest
      refine ⟨[piece] :: runs, rfl, ?_, List.forall_mem_cons.2 ⟨.alone hopen, hruns⟩⟩
      rw [List.map_cons, Text.unwords_singleton]
  | unclosed piece rest hopen hclose =>
      rw [groupFrom_cons_open hopen hclose] at h
      cases h
  | closed piece rest inside after hopen hclose ih =>
      rw [groupFrom_cons_closed hopen hclose, mapError_eq_ok_iff, map_eq_ok_iff] at h
      obtain ⟨tail, hafter, rfl⟩ := h
      obtain ⟨runs, rfl, rfl, hruns⟩ := ih hafter
      have hgroup : Run d (piece :: inside) := .group (wrapped_unwords_group hopen hclose)
      refine ⟨(piece :: inside) :: runs, ?_, rfl, List.forall_mem_cons.2 ⟨hgroup, hruns⟩⟩
      rw [List.flatten_cons, List.cons_append, closeGroup_append hclose]

theorem nil_notMem_of_forall_run {runs : List (List Text)} (h : ∀ run ∈ runs, Run d run) :
    [] ∉ runs := fun hnil => (h [] hnil).ne_nil rfl

/-- A pass keeps the line of its pieces. -/
theorem unwords_of_groupFrom {pieces grouped : List Text} (h : groupFrom d pieces = .ok grouped) :
    Text.unwords grouped = Text.unwords pieces := by
  obtain ⟨runs, rfl, rfl, hruns⟩ := exists_runs_of_groupFrom h
  exact Text.unwords_map_unwords (nil_notMem_of_forall_run hruns)

theorem opensGroup_of_mem_grouped {pieces grouped : List Text}
    (h : groupFrom d pieces = .ok grouped) {token : Text} (htoken : token ∈ grouped) :
    opensGroup d token = false := by
  obtain ⟨runs, -, rfl, hruns⟩ := exists_runs_of_groupFrom h
  obtain ⟨run, hrun, rfl⟩ := List.mem_map.1 htoken
  exact (hruns run hrun).opensGroup_unwords

/-! ## The pass as a whole -/

/-- A pass fails at a piece if it groups all pieces before it, the piece opens a group, and no
piece behind it ends in the delimiter.  If there is no such piece it succeeds: it keeps the line,
joins runs of neighbours, leaves no text that begins with the delimiter and is not closed by it, and
changes nothing when it is made again. -/
theorem group_outcome (d : Char) (pieces : List Text) :
    (∀ i, group d pieces = .error ⟨.unclosedGroup d, pieces, i⟩ ↔
      (∃ front, group d (pieces.take i) = .ok front) ∧
        (∃ piece, pieces[i]? = some piece ∧ piece.opensWith d = true ∧
          (piece = [d] ∨ piece.closesWith d = false)) ∧
        ∀ later ∈ pieces.drop (i + 1), later.closesWith d = false) ∧
      ((∃ i, group d pieces = .error ⟨.unclosedGroup d, pieces, i⟩) ∨
        ∃ grouped, group d pieces = .ok grouped ∧
          Text.unwords grouped = Text.unwords pieces ∧
          (∃ runs : List (List Text), [] ∉ runs ∧ runs.flatten = pieces ∧
            runs.map Text.unwords = grouped) ∧
          (∀ token ∈ grouped, token.opensWith d = true →
            token.closesWith d = true ∧ 1 < token.length) ∧
          group d grouped = .ok grouped) := by
  have herror : ∀ i, group d pieces = .error ⟨.unclosedGroup d, pieces, i⟩ ↔
      groupFrom d pieces = .error i := by
    intro i
    simp [group_eq_error_iff]
  constructor
  · intro i
    rw [herror, groupFrom_eq_error_iff_take]
    simp only [group_eq_ok_iff, opensGroup_eq_true_iff]
  · cases houtcome : groupFrom d pieces with
    | error i => exact .inl ⟨i, (herror i).2 houtcome⟩
    | ok grouped =>
        have hsingle : ∀ token ∈ grouped, opensGroup d token = false := fun _ =>
          opensGroup_of_mem_grouped houtcome
        obtain ⟨runs, hflatten, hjoined, hruns⟩ := exists_runs_of_groupFrom houtcome
        refine .inr ⟨grouped, group_eq_ok_iff.2 houtcome, unwords_of_groupFrom houtcome,
          ⟨runs, nil_notMem_of_forall_run hruns, hflatten, hjoined⟩, ?_,
          group_eq_ok_iff.2 (groupFrom_of_forall_single hsingle)⟩
        intro token htoken hopens
        have hwrapped : Wrapped d token := opensGroup_eq_false_iff.1 (hsingle token htoken) hopens
        exact ⟨hwrapped.closesWith, hwrapped.one_lt_length⟩

-- A delimiter that stands alone opens a group, and one of more than one byte is no different.
example : group '«' ["«", "a«", "«b«", "c«"] = .ok ["« a«", "«b«", "c«"] := by decide +kernel

end LineDispatch.Tokens
