import Mathlib.Data.List.Forall2
import Mathlib.Data.List.TakeWhile
import Mathlib.Logic.Function.Iterate
import LineDispatch.TypeName

/-!
# What shortening a name keeps

A name is paths with single separators between them, and shortening it puts the
last step of each path in the place of the path.  Nothing else happens: the
separators stay, and what stands before one has no say in what becomes of what
stands behind it (`TypeName.short_append_separator`).

All of it is shown along the paths.  A name is one path, or a path, a separator
and a name (`TypeName.name_induction`), and there is one equation for each of the
two (`short_of_path`, `short_path_append`).  What is left concerns one path alone:
its last step stands behind the last two colons in a row, so that it has no two
colons in a row itself (`lastStep_spec`).

The same name comes out if it is read in turns of one path and one separator each
(`TypeName.iterate_turn`).
-/

namespace LineDispatch.TypeName

/-- Whether a character stands between paths. -/
def isSeparator (c : Char) : Bool := !isPathChar c

/-- What is put between the steps of a path. -/
def colons : Text := [':', ':']

/-- A path and what stands in it behind the last two colons in a row; a path without them is left
whole. -/
inductive LastStep : Text → Text → Prop
  | whole {path : Text} (h : ¬ colons <:+: path) : LastStep path path
  | behind {front last : Text} (h : ¬ colons <:+: ':' :: last) :
    LastStep (front ++ colons ++ last) last

/-- One turn of reading a name from its front: the first path is shortened and put behind what is
done, and with it the separator that ends it. -/
def turn : Text × Text → Text × Text
  | (done, rest) =>
    let path := rest.takeWhile isPathChar
    match rest.dropWhile isPathChar with
    | [] => (done ++ lastStep path, [])
    | s :: tail => (done ++ lastStep path ++ [s], tail)

variable {run a b t : Text} {s : Char}

theorem isPathChar_of_isSeparator (h : isSeparator s = true) : isPathChar s = false := by
  simpa [isSeparator] using h

theorem ne_colon_of_isSeparator (h : isSeparator s = true) : s ≠ ':' := by
  rintro rfl
  simp [isSeparator, isPathChar] at h

/-! ## The last step of a path -/

theorem colons_prefix_cons_iff {c : Char} : colons <+: c :: t ↔ c = ':' ∧ t.head? = some ':' := by
  cases t with
  | nil => simp [colons]
  | cons d t => simp [colons, List.cons_prefix_cons, eq_comm]

/-- Two colons in a row do not stand across a separator. -/
theorem colons_infix_append_cons (hs : s ≠ ':') :
    colons <:+: a ++ s :: b ↔ colons <:+: a ∨ colons <:+: b := by
  induction a with
  | nil =>
      have hnone : ¬ colons <:+: [] := by simp [colons]
      rw [List.nil_append, List.infix_cons_iff, colons_prefix_cons_iff]
      simp [hs, hnone]
  | cons c a ih =>
      have hhead : (a ++ s :: b).head? = some ':' ↔ a.head? = some ':' := by
        cases a <;> simp [hs]
      rw [List.cons_append, List.infix_cons_iff, List.infix_cons_iff, ih, colons_prefix_cons_iff,
        colons_prefix_cons_iff, hhead, or_assoc]

theorem afterColons_colons (tail : Text) :
    afterColons (':' :: ':' :: tail) = (afterColons (':' :: tail)).or (some tail) := by
  rw [afterColons]

theorem afterColons_cons {c : Char} (h : ¬ colons <+: c :: t) :
    afterColons (c :: t) = afterColons t := by
  rw [afterColons, Option.or_none]
  rintro tail rfl rfl
  exact h (colons_prefix_cons_iff.2 ⟨rfl, rfl⟩)

/-- Two colons in a row are found where they stand last. -/
theorem afterColons_cases (path : Text) :
    (afterColons path = none ∧ ¬ colons <:+: path) ∨
      ∃ front last, afterColons path = some last ∧ path = front ++ colons ++ last ∧
        ¬ colons <:+: ':' :: last := by
  induction path with
  | nil => exact .inl ⟨rfl, by simp [colons]⟩
  | cons c rest ih =>
      by_cases hhere : colons <+: c :: rest
      · obtain ⟨rfl, hhead⟩ := colons_prefix_cons_iff.1 hhere
        obtain ⟨tail, rfl⟩ := List.head?_eq_some_iff.1 hhead
        right
        rw [afterColons_colons]
        rcases ih with ⟨hnone, hfree⟩ | ⟨front, last, hsome, hrest, hfree⟩
        · rw [hnone]
          exact ⟨[], tail, rfl, rfl, hfree⟩
        · rw [hsome, hrest]
          exact ⟨':' :: front, last, rfl, rfl, hfree⟩
      · rw [afterColons_cons hhere, List.infix_cons_iff, not_or]
        rcases ih with ⟨hnone, hfree⟩ | ⟨front, last, hsome, rfl, hfree⟩
        · exact .inl ⟨hnone, hhere, hfree⟩
        · exact .inr ⟨c :: front, last, hsome, rfl, hfree⟩

theorem lastStep_spec (path : Text) : LastStep path (lastStep path) := by
  unfold lastStep
  rcases afterColons_cases path with ⟨hnone, hfree⟩ | ⟨front, last, hsome, rfl, hfree⟩
  · rw [hnone]
    exact .whole hfree
  · rw [hsome]
    exact .behind hfree

/-- No two colons in a row are left in the last step. -/
theorem LastStep.not_infix_colons {path last : Text} (h : LastStep path last) :
    ¬ colons <:+: last := by
  cases h with
  | whole hfree => exact hfree
  | behind hfree =>
      intro hin
      exact hfree (hin.trans (List.suffix_cons ':' last).isInfix)

theorem LastStep.suffix {path last : Text} (h : LastStep path last) : last <:+ path := by
  cases h with
  | whole => exact List.suffix_rfl
  | behind => exact List.suffix_append _ _

theorem lastStep_of_not_infix {path : Text} (h : ¬ colons <:+: path) : lastStep path = path := by
  rcases afterColons_cases path with ⟨hnone, -⟩ | ⟨front, last, -, rfl, -⟩
  · rw [lastStep, hnone, Option.getD_none]
  · exact absurd ⟨front, last, rfl⟩ h

theorem lastStep_lastStep (path : Text) : lastStep (lastStep path) = lastStep path :=
  lastStep_of_not_infix (lastStep_spec path).not_infix_colons

theorem isPathChar_of_mem_lastStep (hrun : ∀ c ∈ run, isPathChar c = true) :
    ∀ c ∈ lastStep run, isPathChar c = true := fun c hc =>
  hrun c ((lastStep_spec run).suffix.subset hc)

/-! ## Paths one by one -/

theorem short_separator_cons (hs : isSeparator s = true) (t : Text) :
    short (s :: t) = s :: short t := by
  rw [short, isPathChar_of_isSeparator hs]
  rfl

theorem lastStep_nil : lastStep [] = [] := rfl

theorem takeWhile_path_append (hrun : ∀ c ∈ run, isPathChar c = true) (hs : isSeparator s = true)
    (t : Text) : (run ++ s :: t).takeWhile isPathChar = run := by
  have hend : ¬ isPathChar s = true := by simp [isPathChar_of_isSeparator hs]
  rw [List.takeWhile_append_of_pos hrun, List.takeWhile_cons_of_neg hend, List.append_nil]

theorem dropWhile_path_append (hrun : ∀ c ∈ run, isPathChar c = true) (hs : isSeparator s = true)
    (t : Text) : (run ++ s :: t).dropWhile isPathChar = s :: t := by
  have hend : ¬ isPathChar s = true := by simp [isPathChar_of_isSeparator hs]
  rw [List.dropWhile_append_of_pos hrun, List.dropWhile_cons_of_neg hend]

theorem short_of_path (hrun : ∀ c ∈ run, isPathChar c = true) : short run = lastStep run := by
  cases run with
  | nil => rw [short, lastStep_nil]
  | cons c rest =>
      have hrest : ∀ d ∈ rest, isPathChar d = true := fun d hd => hrun d (List.mem_cons_of_mem c hd)
      have hpath : rest.takeWhile isPathChar = rest := List.takeWhile_eq_self_iff.2 hrest
      have hnone : rest.dropWhile isPathChar = [] := List.dropWhile_eq_nil_iff.2 hrest
      rw [short, if_pos (hrun c List.mem_cons_self), hpath, hnone, short, List.append_nil]

/-- The first path of a name ends at the first separator. -/
theorem short_path_append (hrun : ∀ c ∈ run, isPathChar c = true) (hs : isSeparator s = true)
    (t : Text) : short (run ++ s :: t) = lastStep run ++ s :: short t := by
  cases run with
  | nil => exact short_separator_cons hs t
  | cons c rest =>
      have hrest : ∀ d ∈ rest, isPathChar d = true := fun d hd => hrun d (List.mem_cons_of_mem c hd)
      rw [List.cons_append, short, if_pos (hrun c List.mem_cons_self),
        takeWhile_path_append hrest hs, dropWhile_path_append hrest hs, short_separator_cons hs]

/-- A name is one path, or it begins with a path and the separator that ends it. -/
theorem name_induction {motive : Text → Prop}
    (path : ∀ run : Text, (∀ c ∈ run, isPathChar c = true) → motive run)
    (more : ∀ (run : Text) (s : Char) (rest : Text), (∀ c ∈ run, isPathChar c = true) →
      isSeparator s = true → motive rest → motive (run ++ s :: rest)) (t : Text) : motive t := by
  -- What has been read of the first path is held in front of the rest.
  have hheld : ∀ held : Text, (∀ c ∈ held, isPathChar c = true) → motive (held ++ t) := by
    induction t with
    | nil =>
        intro held hpath
        rw [List.append_nil]
        exact path held hpath
    | cons c t ih =>
        intro held hpath
        by_cases hc : isPathChar c = true
        · have hlonger : ∀ d ∈ held ++ [c], isPathChar d = true := by
            intro d hd
            rcases List.mem_append.1 hd with hfront | hlast
            · exact hpath d hfront
            · rw [List.mem_singleton.1 hlast]
              exact hc
          have hmore := ih (held ++ [c]) hlonger
          rwa [List.append_assoc, List.singleton_append] at hmore
        · have hs : isSeparator c = true := by simpa [isSeparator] using hc
          have hrest : motive ([] ++ t) := ih [] fun d hd => absurd hd List.not_mem_nil
          exact more held c t hpath hs hrest
  exact hheld [] fun d hd => absurd hd List.not_mem_nil

/-! ## Names -/

/-- What stands before a separator and what stands behind it are shortened apart. -/
theorem short_append_separator (hs : isSeparator s = true) (a b : Text) :
    short (a ++ s :: b) = short a ++ s :: short b := by
  induction a using name_induction with
  | path run hrun => rw [short_path_append hrun hs, short_of_path hrun]
  | more run s' rest hrun hs' ih =>
      rw [List.append_assoc, List.cons_append, short_path_append hrun hs', ih,
        short_path_append hrun hs', List.append_assoc, List.cons_append]

theorem not_infix_short (t : Text) : ¬ colons <:+: short t := by
  induction t using name_induction with
  | path run hrun =>
      rw [short_of_path hrun]
      exact (lastStep_spec run).not_infix_colons
  | more run s rest hrun hs ih =>
      rw [short_path_append hrun hs, colons_infix_append_cons (ne_colon_of_isSeparator hs), not_or]
      exact ⟨(lastStep_spec run).not_infix_colons, ih⟩

theorem short_short (t : Text) : short (short t) = short t := by
  induction t using name_induction with
  | path run hrun =>
      rw [short_of_path hrun, short_of_path (isPathChar_of_mem_lastStep hrun), lastStep_lastStep]
  | more run s rest hrun hs ih =>
      rw [short_path_append hrun hs, short_path_append (isPathChar_of_mem_lastStep hrun) hs, ih,
        lastStep_lastStep]

theorem filter_isSeparator_of_path (hrun : ∀ c ∈ run, isPathChar c = true) :
    run.filter isSeparator = [] := by
  rw [List.filter_eq_nil_iff]
  intro c hc
  simp [isSeparator, hrun c hc]

/-- The separators stay, in their order. -/
theorem filter_isSeparator_short (t : Text) :
    (short t).filter isSeparator = t.filter isSeparator := by
  induction t using name_induction with
  | path run hrun =>
      rw [short_of_path hrun, filter_isSeparator_of_path hrun,
        filter_isSeparator_of_path (isPathChar_of_mem_lastStep hrun)]
  | more run s rest hrun hs ih =>
      have hshort := isPathChar_of_mem_lastStep hrun
      rw [short_path_append hrun hs, List.filter_append, List.filter_append,
        filter_isSeparator_of_path hrun, filter_isSeparator_of_path hshort,
        List.filter_cons_of_pos hs, List.filter_cons_of_pos hs, ih]

theorem isSeparator_of_path (hrun : ∀ c ∈ run, isPathChar c = true) :
    ∀ c ∈ run, isSeparator c = false := fun c hc => by simp [isSeparator, hrun c hc]

/-- Between the separators each path is replaced by its last step. -/
theorem splitOnP_short (t : Text) :
    List.Forall₂ LastStep (t.splitOnP isSeparator) ((short t).splitOnP isSeparator) := by
  induction t using name_induction with
  | path run hrun =>
      have hshort := isPathChar_of_mem_lastStep hrun
      rw [short_of_path hrun, List.splitOnP_eq_singleton (isSeparator_of_path hrun),
        List.splitOnP_eq_singleton (isSeparator_of_path hshort)]
      exact .cons (lastStep_spec run) .nil
  | more run s rest hrun hs ih =>
      have hshort := isPathChar_of_mem_lastStep hrun
      rw [short_path_append hrun hs,
        List.splitOnP_append_cons_of_forall_mem (isSeparator_of_path hrun) s hs,
        List.splitOnP_append_cons_of_forall_mem (isSeparator_of_path hshort) s hs]
      exact .cons (lastStep_spec run) ih

/-! ## Turns -/

theorem turn_of_path (hrun : ∀ c ∈ run, isPathChar c = true) (done : Text) :
    turn (done, run) = (done ++ lastStep run, []) := by
  have hpath : run.takeWhile isPathChar = run := List.takeWhile_eq_self_iff.2 hrun
  have hnone : run.dropWhile isPathChar = [] := List.dropWhile_eq_nil_iff.2 hrun
  simp only [turn, hpath, hnone]

theorem turn_path_append (hrun : ∀ c ∈ run, isPathChar c = true) (hs : isSeparator s = true)
    (done t : Text) : turn (done, run ++ s :: t) = (done ++ lastStep run ++ [s], t) := by
  simp only [turn, takeWhile_path_append hrun hs, dropWhile_path_append hrun hs]

theorem turn_nil (done : Text) : turn (done, []) = (done, []) := by
  rw [turn_of_path (fun c hc => absurd hc List.not_mem_nil), lastStep_nil, List.append_nil]

/-- Each turn but the last takes a separator, and one more turn than there are separators is the end
of it. -/
theorem iterate_turn (done t : Text) {n : Nat} (hn : (t.filter isSeparator).length < n) :
    turn^[n] (done, t) = (done ++ short t, []) := by
  induction t using name_induction generalizing done n with
  | path run hrun =>
      obtain ⟨m, rfl⟩ := Nat.exists_eq_succ_of_ne_zero (Nat.ne_zero_of_lt hn)
      rw [Function.iterate_succ_apply, turn_of_path hrun, short_of_path hrun]
      exact Function.iterate_fixed (turn_nil _) m
  | more run s rest hrun hs ih =>
      obtain ⟨m, rfl⟩ := Nat.exists_eq_succ_of_ne_zero (Nat.ne_zero_of_lt hn)
      rw [List.filter_append, filter_isSeparator_of_path hrun, List.filter_cons_of_pos hs] at hn
      have hm : (rest.filter isSeparator).length < m := Nat.lt_of_succ_lt_succ hn
      rw [Function.iterate_succ_apply, turn_path_append hrun hs, ih _ hm, short_path_append hrun hs]
      simp

/-- Read from the front in turns, a name is shortened after finitely many of them, one more than it
has separators at most.  The separators stay in their order and each path between them is replaced
by its last step, so that there are no two colons in a row, shortening again changes nothing, and
what stands before a separator and what stands behind it are shortened apart. -/
theorem short_outcome (t : Text) :
    (∀ n, (t.filter isSeparator).length < n → turn^[n] ([], t) = (short t, [])) ∧
      ¬ colons <:+: short t ∧
      short (short t) = short t ∧
      (short t).filter isSeparator = t.filter isSeparator ∧
      List.Forall₂ LastStep (t.splitOnP isSeparator) ((short t).splitOnP isSeparator) ∧
      ∀ a s b, isSeparator s = true → short (a ++ s :: b) = short a ++ s :: short b :=
  ⟨fun _ hn => iterate_turn [] t hn, not_infix_short t, short_short t, filter_isSeparator_short t,
    splitOnP_short t, fun a _ b hs => short_append_separator hs a b⟩

/-- A reference to an array, with paths in it that are nested, and a run of five colons. -/
theorem short_outcome_nested :
    let name : Text := "&[core::Option<a:::::B>; 4]"
    (name.filter isSeparator).length < 8 ∧ turn^[8] ([], name) = ("&[Option<B>; 4]".toList, []) ∧
      isSeparator '<' = true ∧
      short ("core::Option".toList ++ '<' :: "a:::::B>".toList) =
        "Option".toList ++ '<' :: "B>".toList := by
  intro name
  have hcount : (name.filter isSeparator).length < 8 := by decide +kernel
  have hs : isSeparator '<' = true := by decide +kernel
  have hshort : short name = "&[Option<B>; 4]".toList := by decide +kernel
  obtain ⟨hturns, -, -, -, -, happend⟩ := short_outcome name
  refine ⟨hcount, ?_, hs, ?_⟩
  · rw [hturns 8 hcount, hshort]
  · rw [happend _ _ _ hs]
    decide +kernel

end LineDispatch.TypeName
