import LineDispatch.Proofs.Results
import LineDispatch.Proofs.Text.Unwords
import LineDispatch.Tokens

/-!
# Pieces and groups

How cutting at spaces and one grouping pass behave on a line that is put
together from parts.

* The pieces of a line are the pieces of its parts, one list after the other,
  wherever a space stands between the parts (`pieces_append_space`).
* A grouping pass that succeeds on the pieces of the first part goes on with
  the second as if it stood alone (`groupFrom_append`), for every group of the
  first part is closed within it.
* A grouping pass fails at the first piece that opens a group and has no piece
  behind it that could close one (`groupFrom_eq_error_iff`).

The two passes and the stripping together are `ofPieces`, which therefore takes
the parts of a line one by one (`ofPieces_append`), and the tokens of any line
are those of its pieces (`ofLine_eq_ofPieces`): the shortcut for lines without
quotes gives what the passes give.
-/

namespace LineDispatch.Tokens

/-! ## Pieces -/

@[simp] theorem pieces_nil : pieces [] = [[]] := rfl

theorem pieces_ne_nil (t : Text) : pieces t ≠ [] := List.splitOn_ne_nil ' ' t

theorem pieces_append_space (x y : Text) : pieces (x ++ ' ' :: y) = pieces x ++ pieces y :=
  List.splitOn_append_cons_self x y

@[simp] theorem pieces_space_cons (t : Text) : pieces (' ' :: t) = [] :: pieces t :=
  pieces_append_space [] t

theorem pieces_cons {c : Char} (hc : c ≠ ' ') (t : Text) :
    pieces (c :: t) = (pieces t).modifyHead (c :: ·) := by
  rw [pieces, List.splitOn_cons_eq_if_modifyHead, if_neg (by simpa using hc)]
  rfl

theorem pieces_eq_singleton {t : Text} (h : ' ' ∉ t) : pieces t = [t] :=
  List.splitOn_eq_singleton h

/-- The pieces joined by single spaces are the line again. -/
@[simp] theorem unwords_pieces (t : Text) : Text.unwords (pieces t) = t :=
  List.intercalate_splitOn ' '

/-- Texts without spaces are the pieces of the line that they make. -/
theorem pieces_unwords {words : List Text} (hwords : ∀ w ∈ words, ' ' ∉ w) (hne : words ≠ []) :
    pieces (Text.unwords words) = words :=
  List.splitOn_intercalate ' ' hwords hne

/-- A line of words without spaces tells which words they are. -/
theorem unwords_injective {words others : List Text} (hwords : ∀ w ∈ words, ' ' ∉ w)
    (hothers : ∀ w ∈ others, ' ' ∉ w) (hne : words ≠ []) (hne' : others ≠ [])
    (h : Text.unwords words = Text.unwords others) : words = others := by
  calc
    words = pieces (Text.unwords words) := (pieces_unwords hwords hne).symm
    _ = pieces (Text.unwords others) := by rw [h]
    _ = others := pieces_unwords hothers hne'

theorem mem_unwords_of_mem {c : Char} {w : Text} {words : List Text} (hw : w ∈ words)
    (hc : c ∈ w) : c ∈ Text.unwords words := by
  obtain ⟨front, back, rfl⟩ := List.append_of_mem hw
  rw [Text.unwords_append_cons]
  exact List.mem_append_right _ ((Text.prefix_unwords_cons w back).subset hc)

/-- A piece holds only characters of its line. -/
theorem mem_of_mem_pieces {c : Char} {t piece : Text} (hp : piece ∈ pieces t) (hc : c ∈ piece) :
    c ∈ t := by
  have := mem_unwords_of_mem hp hc
  rwa [unwords_pieces] at this

theorem space_notMem_of_mem_pieces {t piece : Text} (hp : piece ∈ pieces t) : ' ' ∉ piece := by
  induction t generalizing piece with
  | nil => simp_all
  | cons c t ih =>
      by_cases hc : c = ' '
      · subst hc
        rw [pieces_space_cons] at hp
        rcases List.mem_cons.1 hp with rfl | hp
        · simp
        · exact ih hp
      · rw [pieces_cons hc] at hp
        obtain ⟨first, rest, he⟩ := List.exists_cons_of_ne_nil (pieces_ne_nil t)
        rw [he, List.modifyHead_cons] at hp
        rcases List.mem_cons.1 hp with rfl | hp
        · have : ' ' ∉ first := ih (he ▸ List.mem_cons_self)
          simp [Ne.symm hc, this]
        · exact ih (he ▸ List.mem_cons_of_mem _ hp)

/-! ## One pass -/

variable {d : Char}

theorem closeGroup_eq_none_iff {pieces : List Text} :
    closeGroup d pieces = none ↔ ∀ piece ∈ pieces, piece.closesWith d = false := by
  induction pieces with
  | nil => simp [closeGroup]
  | cons piece rest ih =>
      rw [closeGroup, List.forall_mem_cons]
      split
      · rename_i hclose
        simp [hclose]
      · rename_i hopen
        rw [Option.map_eq_none_iff, ih]
        simp [hopen]

/-- A group runs to the first piece that ends in the delimiter. -/
theorem closeGroup_eq_some_iff {pieces inside after : List Text} :
    closeGroup d pieces = some (inside, after) ↔
      ∃ front last, inside = front ++ [last] ∧ pieces = inside ++ after ∧
        last.closesWith d = true ∧ ∀ piece ∈ front, piece.closesWith d = false := by
  induction pieces generalizing inside with
  | nil =>
      constructor
      · intro h
        cases h
      · rintro ⟨front, last, rfl, hpieces, -, -⟩
        simp at hpieces
  | cons piece rest ih =>
      rw [closeGroup]
      split
      · rename_i hclose
        constructor
        · intro h
          cases h
          exact ⟨[], piece, rfl, rfl, hclose, by simp⟩
        · rintro ⟨front, last, rfl, hpieces, -, hfront⟩
          cases front with
          | nil =>
              cases hpieces
              rfl
          | cons first front =>
              cases hpieces
              rw [hfront piece List.mem_cons_self] at hclose
              cases hclose
      · rename_i hopen
        rw [Bool.not_eq_true] at hopen
        constructor
        · intro h
          obtain ⟨⟨inside', after'⟩, hrest, heq⟩ := Option.map_eq_some_iff.1 h
          cases heq
          obtain ⟨front, last, rfl, rfl, hlast, hfront⟩ := ih.1 hrest
          exact ⟨piece :: front, last, rfl, rfl, hlast, List.forall_mem_cons.2 ⟨hopen, hfront⟩⟩
        · rintro ⟨front, last, rfl, hpieces, hlast, hfront⟩
          cases front with
          | nil =>
              cases hpieces
              rw [hlast] at hopen
              cases hopen
          | cons first front =>
              cases hpieces
              have hrest := ih.2 ⟨front, last, rfl, rfl, hlast, (List.forall_mem_cons.1 hfront).2⟩
              rw [hrest]
              rfl

theorem closeGroup_append_right {pieces inside after : List Text}
    (h : closeGroup d pieces = some (inside, after)) (more : List Text) :
    closeGroup d (pieces ++ more) = some (inside, after ++ more) := by
  obtain ⟨front, last, hinside, rfl, hlast, hfront⟩ := closeGroup_eq_some_iff.1 h
  exact closeGroup_eq_some_iff.2
    ⟨front, last, hinside, List.append_assoc inside after more, hlast, hfront⟩

@[simp] theorem groupFrom_nil : groupFrom d [] = .ok [] := by rw [groupFrom]

theorem groupFrom_cons {piece : Text} (h : opensGroup d piece = false) (rest : List Text) :
    groupFrom d (piece :: rest) =
      ((groupFrom d rest).map (piece :: ·)).mapError (· + 1) := by
  rw [groupFrom, if_neg (by simp [h])]
  cases groupFrom d rest <;> rfl

theorem groupFrom_cons_open {piece : Text} (h : opensGroup d piece = true) {rest : List Text}
    (hclose : closeGroup d rest = none) : groupFrom d (piece :: rest) = .error 0 := by
  rw [groupFrom, if_pos h]
  split
  · rfl
  · simp_all

theorem groupFrom_cons_closed {piece : Text} (h : opensGroup d piece = true)
    {rest inside after : List Text} (hclose : closeGroup d rest = some (inside, after)) :
    groupFrom d (piece :: rest) =
      ((groupFrom d after).map (Text.unwords (piece :: inside) :: ·)).mapError
        (· + inside.length + 1) := by
  rw [groupFrom, if_pos h]
  split
  · simp_all
  · rename_i inside' after' hclose'
    rw [hclose, Option.some.injEq, Prod.mk.injEq] at hclose'
    obtain ⟨rfl, rfl⟩ := hclose'
    cases groupFrom d after <;> rfl

/-- The cases in which a pass makes its way over a list of pieces: nothing is left, the next
piece stands alone, the group it opens is never closed, or it is closed by a later piece. -/
theorem groupFrom_induction {motive : List Text → Prop} (nil : motive [])
    (single : ∀ piece rest, opensGroup d piece = false → motive rest → motive (piece :: rest))
    (unclosed : ∀ piece rest, opensGroup d piece = true → closeGroup d rest = none →
      motive (piece :: rest))
    (closed : ∀ piece rest inside after, opensGroup d piece = true →
      closeGroup d rest = some (inside, after) → motive after → motive (piece :: rest))
    (pieces : List Text) : motive pieces := by
  match pieces with
  | [] => exact nil
  | piece :: rest =>
      by_cases hopen : opensGroup d piece = true
      · match hclose : closeGroup d rest with
        | none => exact unclosed piece rest hopen hclose
        | some (inside, after) =>
            have : after.length ≤ rest.length := length_after_closeGroup hclose
            exact closed piece rest inside after hopen hclose
              (groupFrom_induction nil single unclosed closed after)
      · exact single piece rest (by simpa using hopen)
          (groupFrom_induction nil single unclosed closed rest)
termination_by pieces.length
decreasing_by all_goals simp only [List.length_cons]; omega

/-- After pieces that a pass groups without error it goes on with what follows as if that stood
alone. -/
theorem groupFrom_append {front grouped : List Text} (h : groupFrom d front = .ok grouped)
    (back : List Text) :
    groupFrom d (front ++ back) =
      ((groupFrom d back).map (grouped ++ ·)).mapError (· + front.length) := by
  induction front using groupFrom_induction (d := d) generalizing grouped with
  | nil =>
      rw [groupFrom_nil] at h
      cases h
      cases hb : groupFrom d back <;> simp [hb, Except.map]
  | single piece rest hopen ih =>
      rw [groupFrom_cons hopen, mapError_eq_ok_iff, map_eq_ok_iff] at h
      obtain ⟨tail, hrest, rfl⟩ := h
      rw [List.cons_append, groupFrom_cons hopen, ih hrest]
      cases groupFrom d back <;> simp [Except.map, Nat.add_assoc]
  | unclosed piece rest hopen hclose =>
      rw [groupFrom_cons_open hopen hclose] at h
      cases h
  | closed piece rest inside after hopen hclose ih =>
      have hlength : rest.length = inside.length + after.length := by
        rw [← closeGroup_append hclose, List.length_append]
      rw [groupFrom_cons_closed hopen hclose, mapError_eq_ok_iff, map_eq_ok_iff] at h
      obtain ⟨tail, hafter, rfl⟩ := h
      rw [List.cons_append, groupFrom_cons_closed hopen (closeGroup_append_right hclose back),
        ih hafter]
      cases groupFrom d back with
      | ok _ => simp [Except.map]
      | error i =>
          simp only [Except.map, mapError_error, List.length_cons, Except.error.injEq]
          omega

/-- The pieces of a group are made into one. -/
theorem groupFrom_group {piece : Text} (h : opensGroup d piece = true)
    {rest inside after : List Text} (hclose : closeGroup d rest = some (inside, after)) :
    groupFrom d (piece :: inside) = .ok [Text.unwords (piece :: inside)] := by
  obtain ⟨front, last, hinside, -, hlast, hfront⟩ := closeGroup_eq_some_iff.1 hclose
  have hself : closeGroup d inside = some (inside, []) :=
    closeGroup_eq_some_iff.2 ⟨front, last, hinside, (List.append_nil inside).symm, hlast, hfront⟩
  rw [groupFrom_cons_closed h hself, groupFrom_nil]
  rfl

/-- A pass fails at the first piece that opens a group and has nothing behind it that closes one:
it makes its way up to there. -/
theorem groupFrom_eq_error_iff {pieces : List Text} {i : Nat} :
    groupFrom d pieces = .error i ↔
      ∃ front piece back grouped, pieces = front ++ piece :: back ∧ front.length = i ∧
        groupFrom d front = .ok grouped ∧ opensGroup d piece = true ∧
        ∀ later ∈ back, later.closesWith d = false := by
  constructor
  · intro h
    induction pieces using groupFrom_induction (d := d) generalizing i with
    | nil =>
        rw [groupFrom_nil] at h
        cases h
    | single piece rest hopen ih =>
        rw [groupFrom_cons hopen, mapError_eq_error_iff] at h
        obtain ⟨j, hj, rfl⟩ := h
        obtain ⟨front, opening, back, grouped, rfl, rfl, hfront, hopening, hback⟩ :=
          ih (map_eq_error_iff.1 hj)
        refine ⟨piece :: front, opening, back, piece :: grouped, rfl, rfl, ?_, hopening, hback⟩
        rw [groupFrom_cons hopen, hfront]
        rfl
    | unclosed piece rest hopen hclose =>
        rw [groupFrom_cons_open hopen hclose] at h
        cases h
        exact ⟨[], piece, rest, [], rfl, rfl, groupFrom_nil, hopen, closeGroup_eq_none_iff.1 hclose⟩
    | closed piece rest inside after hopen hclose ih =>
        rw [groupFrom_cons_closed hopen hclose, mapError_eq_error_iff] at h
        obtain ⟨j, hj, rfl⟩ := h
        obtain ⟨front, opening, back, grouped, rfl, rfl, hfront, hopening, hback⟩ :=
          ih (map_eq_error_iff.1 hj)
        refine ⟨piece :: inside ++ front, opening, back, Text.unwords (piece :: inside) :: grouped,
          ?_, ?_, ?_, hopening, hback⟩
        · rw [← closeGroup_append hclose, List.append_assoc, List.cons_append]
        -- The index counts the piece that opens the closed group and the pieces inside it.
        · rw [List.length_append, List.length_cons]
          omega
        · rw [groupFrom_append (groupFrom_group hopen hclose), hfront]
          rfl
  · rintro ⟨front, piece, back, grouped, rfl, rfl, hfront, hopen, hback⟩
    have hunclosed : groupFrom d (piece :: back) = .error 0 :=
      groupFrom_cons_open hopen (closeGroup_eq_none_iff.2 hback)
    rw [groupFrom_append hfront, hunclosed]
    exact congrArg Except.error (Nat.zero_add _)

/-- The error of a pass, told by its index. -/
theorem groupFrom_eq_error_iff_take {pieces : List Text} {i : Nat} :
    groupFrom d pieces = .error i ↔
      (∃ grouped, groupFrom d (pieces.take i) = .ok grouped) ∧
        (∃ piece, pieces[i]? = some piece ∧ opensGroup d piece = true) ∧
        ∀ later ∈ pieces.drop (i + 1), later.closesWith d = false := by
  rw [groupFrom_eq_error_iff]
  constructor
  · rintro ⟨front, piece, back, grouped, rfl, rfl, hfront, hopen, hback⟩
    refine ⟨⟨grouped, ?_⟩, ⟨piece, by simp, hopen⟩, ?_⟩
    · rwa [List.take_left]
    · simpa using hback
  · rintro ⟨⟨grouped, hfront⟩, ⟨piece, hpiece, hopen⟩, hback⟩
    obtain ⟨hlt, rfl⟩ := List.getElem?_eq_some_iff.1 hpiece
    refine ⟨pieces.take i, pieces[i], pieces.drop (i + 1), grouped, ?_, ?_, hfront, hopen, hback⟩
    · rw [← List.drop_eq_getElem_cons hlt, List.take_append_drop]
    · exact List.length_take_of_le (Nat.le_of_lt hlt)

/-- A pass leaves pieces alone of which none opens a group. -/
theorem groupFrom_of_forall_single {pieces : List Text}
    (h : ∀ piece ∈ pieces, opensGroup d piece = false) : groupFrom d pieces = .ok pieces := by
  induction pieces with
  | nil => exact groupFrom_nil
  | cons piece rest ih =>
      have hrest := ih fun p hp => h p (List.mem_cons_of_mem _ hp)
      rw [groupFrom_cons (h piece List.mem_cons_self), hrest]
      rfl

theorem opensGroup_eq_true_iff {piece : Text} :
    opensGroup d piece = true ↔
      piece.opensWith d = true ∧ (piece = [d] ∨ piece.closesWith d = false) := by
  rw [opensGroup, Bool.and_eq_true, Bool.or_eq_true, beq_iff_eq, Bool.not_eq_true']

theorem opensGroup_eq_false_of_notMem {piece : Text} (h : d ∉ piece) :
    opensGroup d piece = false := by
  cases piece with
  | nil => rfl
  | cons c rest =>
      have hc : c ≠ d := fun e => h (e ▸ List.mem_cons_self)
      simp [opensGroup, hc]

theorem exists_cons_of_opensGroup {piece : Text} (h : opensGroup d piece = true) :
    ∃ rest, piece = d :: rest := by
  cases piece with
  | nil => cases h
  | cons c rest =>
      have hopens : Text.opensWith d (c :: rest) = true := (opensGroup_eq_true_iff.1 h).1
      rw [Text.opensWith_cons, beq_iff_eq] at hopens
      exact ⟨rest, by rw [hopens]⟩

/-- A piece that does not begin with a quote opens no group. -/
theorem opensGroup_eq_false_of_head {piece : Text} (hd : isQuote d = true)
    (h : ∀ c ∈ piece.head?, isQuote c = false) : opensGroup d piece = false := by
  cases piece with
  | nil => rfl
  | cons c rest =>
      have hc : c ≠ d := by
        rintro rfl
        rw [h c rfl] at hd
        cases hd
      simp [opensGroup, hc]

/-! ## Both passes -/

theorem group_eq_ok_iff {pieces grouped : List Text} :
    group d pieces = .ok grouped ↔ groupFrom d pieces = .ok grouped := by
  unfold group
  exact mapError_eq_ok_iff

theorem group_eq_error_iff {pieces : List Text} {e : ParseError} :
    group d pieces = .error e ↔
      ∃ i, groupFrom d pieces = .error i ∧ ⟨.unclosedGroup d, pieces, i⟩ = e := by
  unfold group
  exact mapError_eq_error_iff

theorem ofPieces_eq_ok_iff {pieces tokens : List Text} :
    ofPieces pieces = .ok tokens ↔
      ∃ doubled grouped, groupFrom '"' pieces = .ok doubled ∧
        groupFrom '\'' doubled = .ok grouped ∧
        (grouped.filter (· ≠ [])).map stripQuotes = tokens := by
  unfold ofPieces
  simp only [bind_eq_ok_iff, group_eq_ok_iff, pure, Except.pure, Except.ok.injEq]
  constructor
  · rintro ⟨doubled, hdoubled, grouped, hgrouped, htokens⟩
    exact ⟨doubled, grouped, hdoubled, hgrouped, htokens⟩
  · rintro ⟨doubled, grouped, hdoubled, hgrouped, htokens⟩
    exact ⟨doubled, hdoubled, grouped, hgrouped, htokens⟩

/-- The tokens of a line are found part by part. -/
theorem ofPieces_append {front back ts us : List Text} (hfront : ofPieces front = .ok ts)
    (hback : ofPieces back = .ok us) : ofPieces (front ++ back) = .ok (ts ++ us) := by
  rw [ofPieces_eq_ok_iff] at hfront hback ⊢
  obtain ⟨doubled, grouped, hd, hg, rfl⟩ := hfront
  obtain ⟨doubled', grouped', hd', hg', rfl⟩ := hback
  refine ⟨doubled ++ doubled', grouped ++ grouped', ?_, ?_, ?_⟩
  · rw [groupFrom_append hd, hd']
    rfl
  · rw [groupFrom_append hg, hg']
    rfl
  · rw [List.filter_append, List.map_append]

theorem stripQuotes_eq_self {token : Text} (h : ∀ c ∈ token.head?, isQuote c = false) :
    stripQuotes token = token := by
  cases token with
  | nil => rfl
  | cons c rest =>
      have : isQuote c = false := h c rfl
      simp [stripQuotes, this]

theorem stripQuotes_quoted (hd : isQuote d = true) (t : Text) :
    stripQuotes (d :: (t ++ [d])) = t := by
  simp [stripQuotes, hd]

/-- If no piece begins with a quote, the passes and the stripping only drop the empty pieces. -/
theorem ofPieces_of_bare {pieces : List Text}
    (h : ∀ piece ∈ pieces, ∀ c ∈ piece.head?, isQuote c = false) :
    ofPieces pieces = .ok (pieces.filter (· ≠ [])) := by
  have hsingle : ∀ d, isQuote d = true → groupFrom d pieces = .ok pieces := by
    intro d hd
    apply groupFrom_of_forall_single
    intro piece hp
    exact opensGroup_eq_false_of_head hd (h piece hp)
  have hstrip : (pieces.filter (· ≠ [])).map stripQuotes = pieces.filter (· ≠ []) := by
    refine (List.map_congr_left fun token ht => ?_).trans (List.map_id _)
    exact stripQuotes_eq_self (h token (List.mem_filter.1 ht).1)
  rw [ofPieces_eq_ok_iff]
  exact ⟨pieces, pieces, hsingle _ rfl, hsingle _ rfl, hstrip⟩

/-- Without quotes no piece begins with one. -/
theorem bare_of_any_eq_false {t : Text} (h : t.any isQuote = false) :
    ∀ piece ∈ pieces t, ∀ c ∈ piece.head?, isQuote c = false := by
  intro piece hp c hc
  rw [List.any_eq_false] at h
  simpa using h c (mem_of_mem_pieces hp (List.mem_of_mem_head? hc))

/-- The tokens of a line are those of the pieces of the trimmed line. -/
theorem ofLine_eq_ofPieces (line : Text) : ofLine line = ofPieces (pieces line.trim) := by
  have hplain : line.trim.any isQuote = false →
      ofPieces (pieces line.trim) = .ok (plain line.trim) :=
    fun hnone => ofPieces_of_bare (bare_of_any_eq_false hnone)
  unfold ofLine
  simp only [Bool.not_eq_true']
  split
  · rename_i hempty
    rw [hplain (by simp [hempty]), hempty]
    rfl
  · split
    · rename_i hnone
      exact (hplain hnone).symm
    · rfl

/-- A line without quotes is only cut. -/
theorem ofLine_of_no_quote {line : Text} (h : line.any isQuote = false) :
    ofLine line = .ok (plain line.trim) := by
  have htrim : line.trim.any isQuote = false := by
    rw [List.any_eq_false] at h ⊢
    exact fun c hc => h c ((Text.trim_sublist line).subset hc)
  rw [ofLine_eq_ofPieces]
  exact ofPieces_of_bare (bare_of_any_eq_false htrim)

/-- The tokens of a line without quotes are pieces of it. -/
theorem space_notMem_of_mem_ofLine {line : Text} (hquotes : line.any isQuote = false)
    {ts : List Text} (h : ofLine line = .ok ts) : ∀ t ∈ ts, ' ' ∉ t := by
  rw [ofLine_of_no_quote hquotes, Except.ok.injEq] at h
  intro t ht
  rw [← h] at ht
  exact space_notMem_of_mem_pieces (List.mem_filter.1 ht).1

end LineDispatch.Tokens
