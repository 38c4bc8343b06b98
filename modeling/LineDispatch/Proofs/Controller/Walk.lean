import LineDispatch.Controller.Path
import LineDispatch.Proofs.Results

/-!
# The walk of a path

A path is walked down the fields as long as its words name fields and no
operation.  `Controller.reach` is the scope that such words lead to, and behind
them a path is resolved as if it began in that scope (`Controller.resolve_append`).
A path that is not such words all along has a first word at which the walk stops
(`Controller.exists_stop`), and there an operation of the scope is chosen: one
of the word's name, or else the default one (`Controller.resolve_of_stop`).
-/

namespace LineDispatch

/-- The same miss of a path that begins with the words `front` in front. -/
def PathNotFound.behind (front : List Text) (e : PathNotFound) : PathNotFound :=
  { e with depth := front.length + e.depth }

/-- The same resolution of a path that begins with the fields `front` in front. -/
def Resolution.behind (front : List Text) (r : Resolution) : Resolution :=
  { r with fields := front ++ r.fields, consumed := front.length + r.consumed }

namespace Controller

variable {c scope : Controller} {name segment : Text} {front path : List Text}

/-! ## One scope -/

/-- Whether an operation of the scope has the name. -/
def HasOperation (c : Controller) (name : Text) : Prop := ∃ op ∈ c.operations, op.name = name

instance (c : Controller) (name : Text) : Decidable (c.HasOperation name) :=
  inferInstanceAs (Decidable (∃ op ∈ c.operations, op.name = name))

/-- Whether the walk stops in front of a word: it names an operation, or no field. -/
def Stops (c : Controller) (segment : Text) : Prop :=
  c.HasOperation segment ∨ c.field segment = none

theorem mem_of_selectOperation {remaining : Nat} {op : Operation}
    (h : c.selectOperation name remaining = some op) : op ∈ c.operations ∧ op.name = name := by
  have hmem : op ∈ c.operations.filter (·.name = name) := by
    unfold selectOperation at h
    split at h
    · cases h
    · simp_all
    · rcases Option.or_eq_some_iff.1 h with h | ⟨-, h⟩
      · exact List.mem_of_find?_eq_some h
      · rcases Option.or_eq_some_iff.1 h with h | ⟨-, h⟩
        · exact List.mem_of_find?_eq_some h
        · exact List.mem_of_head? h
  simpa using hmem

theorem exists_selectOperation (h : c.HasOperation name) (remaining : Nat) :
    ∃ op, c.selectOperation name remaining = some op := by
  obtain ⟨op, hop, hname⟩ := h
  have hmem : op ∈ c.operations.filter (·.name = name) := by simp [hop, hname]
  unfold selectOperation
  split
  · simp_all
  · exact ⟨_, rfl⟩
  -- Of several candidates the first is taken if no other is.
  · rw [← Option.isSome_iff_exists, Option.isSome_or, Option.isSome_or,
      List.isSome_head?.2 (List.ne_nil_of_mem hmem), Bool.or_true, Bool.or_true]

theorem selectOperation_eq_none_iff {remaining : Nat} :
    c.selectOperation name remaining = none ↔ ¬ c.HasOperation name := by
  constructor
  · intro hnone h
    obtain ⟨op, hop⟩ := exists_selectOperation h remaining
    rw [hnone] at hop
    cases hop
  · intro h
    cases hop : c.selectOperation name remaining with
    | none => rfl
    | some op => exact absurd ⟨op, mem_of_selectOperation hop⟩ h

theorem field_eq_none_iff : c.field name = none ↔ name ∉ c.fields.map (·.name) := by
  simp [field]

theorem mem_of_field {f : Field} (h : c.field name = some f) : f ∈ c.fields ∧ f.name = name := by
  unfold field at h
  exact ⟨List.mem_of_find?_eq_some h, by simpa using List.find?_some h⟩

/-! ## Words of fields -/

theorem reach_cons_iff {rest : List Text} :
    c.reach (segment :: rest) = some scope ↔
      ∃ f, c.field segment = some f ∧ ¬ c.HasOperation segment ∧ f.scope.reach rest = some scope := by
  rw [reach]
  cases hf : c.field segment with
  | none => simp
  | some f =>
      by_cases hop : c.HasOperation segment
      · have hsome : c.selectOperation segment 0 ≠ none := fun h =>
          selectOperation_eq_none_iff.1 h hop
        simp [Option.isNone_iff_eq_none, hsome, hop]
      · simp [selectOperation_eq_none_iff.2 hop, hop]

theorem reach_append (h : c.reach front = some scope) (back : List Text) :
    c.reach (front ++ back) = scope.reach back := by
  induction front generalizing c with
  | nil =>
      cases h
      rfl
  | cons segment rest ih =>
      obtain ⟨f, hfield, hop, hreach⟩ := reach_cons_iff.1 h
      rw [List.cons_append, reach, hfield]
      simp only [selectOperation_eq_none_iff.2 hop, Option.isNone_none, if_true]
      exact ih hreach

/-- Behind words of fields a path is resolved in the scope that they lead to. -/
theorem resolve_append (h : c.reach front = some scope) (back : List Text) :
    c.resolve (front ++ back) =
      ((scope.resolve back).map (·.behind front)).mapError (·.behind front) := by
  induction front generalizing c with
  | nil =>
      cases h
      cases hback : scope.resolve back <;>
        simp [hback, Except.map, Resolution.behind, PathNotFound.behind]
  | cons segment rest ih =>
      obtain ⟨f, hfield, hop, hreach⟩ := reach_cons_iff.1 h
      obtain ⟨-, rfl⟩ := mem_of_field hfield
      rw [List.cons_append, resolve, selectOperation_eq_none_iff.2 hop, hfield]
      simp only [ih hreach]
      cases scope.resolve back <;>
        simp [Except.map, Resolution.under, Resolution.behind, PathNotFound.behind, Nat.add_right_comm]

/-! ## Where the walk stops -/

/-- Words that do not all lead on have a first one that does not. -/
theorem exists_stop (h : c.reach path = none) :
    ∃ front segment back scope, path = front ++ segment :: back ∧ c.reach front = some scope ∧
      scope.Stops segment := by
  induction path generalizing c with
  | nil => cases h
  | cons segment rest ih =>
      by_cases hstop : c.Stops segment
      · exact ⟨[], segment, rest, c, rfl, rfl, hstop⟩
      · rw [Stops, not_or] at hstop
        obtain ⟨f, hfield⟩ := Option.ne_none_iff_exists'.1 hstop.2
        have hrest : f.scope.reach rest = none := by
          cases hreach : f.scope.reach rest with
          | none => rfl
          | some scope =>
              rw [reach_cons_iff.2 ⟨f, hfield, hstop.1, hreach⟩] at h
              cases h
        obtain ⟨front, segment', back, scope, rfl, hfront, hstop'⟩ := ih hrest
        exact ⟨segment :: front, segment', back, scope, rfl,
          reach_cons_iff.2 ⟨f, hfield, hstop.1, hfront⟩, hstop'⟩

theorem Stops.reach_eq_none (h : c.Stops segment) (rest : List Text) :
    c.reach (segment :: rest) = none := by
  rw [Option.eq_none_iff_forall_ne_some]
  intro scope hreach
  obtain ⟨f, hfield, hop, -⟩ := reach_cons_iff.1 hreach
  rcases h with h | h
  · exact hop h
  · rw [h] at hfield
    cases hfield

/-- Where the walk stops an operation of the word's name is chosen, or else the default one. -/
theorem resolve_of_stop (h : c.Stops segment) (rest : List Text) :
    c.resolve (segment :: rest) =
      match c.selectOperation segment rest.length with
      | some op => .ok ⟨[], op, 1⟩
      | none => c.fallBack (some segment) := by
  rw [resolve]
  cases hop : c.selectOperation segment rest.length with
  | some op => rfl
  | none =>
      rcases h with h | h
      · exact absurd h (selectOperation_eq_none_iff.1 hop)
      · rw [h]

theorem resolve_of_hasOperation (h : c.HasOperation segment) (rest : List Text) :
    ∃ op, c.resolve (segment :: rest) = .ok ⟨[], op, 1⟩ := by
  obtain ⟨op, hop⟩ := exists_selectOperation h rest.length
  refine ⟨op, ?_⟩
  rw [resolve_of_stop (.inl h), hop]

/-! ## A small tree -/

/-- The sum of two integers. -/
def addTwo : Operation :=
  .declare {} "add" [.scalar (.integer .i64), .scalar (.integer .i64)] fun _ => .ok []

/-- The sum of three integers, under the same name. -/
def addThree : Operation :=
  .declare {} "add" (List.replicate 3 (.scalar (.integer .i64))) fun _ => .ok []

/-- Both sums. -/
def sums : Controller := ⟨"Math", [addTwo, addThree], []⟩

/-- The sums under the fields `calc` and `math`, the second of which has the name of an
operation. -/
def sumTree : Controller :=
  ⟨"Root", [.declare { isDefault := true } "math" [] fun _ => .ok []],
    [.declare {} "calc" sums, .declare {} "math" sums]⟩

end Controller

end LineDispatch
