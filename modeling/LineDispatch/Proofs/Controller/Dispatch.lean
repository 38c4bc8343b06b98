import LineDispatch.Command
import LineDispatch.Proofs.Controller.Walk

/-!
# Where a path leads

A path is walked over as many words as lead down fields, each of which names no
operation of its scope (`Controller.Walks`).  The number of these words and the
scope behind them tell all that the path can come to
(`Controller.resolve_walk`): if the next word is the name of an operation, the
operation is chosen by the number of words behind it, and one word more is
consumed; otherwise, also at the end of the path, what is left goes to the
default operation of the scope, or nothing is found (`Controller.byDefault`).

So no more words are consumed than there are (`Controller.consumed_le`), and a
command cuts the parameters of a call in two: the words of the path, which are
the fields and the name of the operation where it was named, and the arguments
of the operation.
-/

namespace LineDispatch

namespace Controller

variable {c scope scope' : Controller} {segment : Text} {front path path' : List Text}
  {k k' : Nat} {op : Operation} {res : Resolution}

/-! ## How far a path is walked -/

/-- Whether the first `k` words of a path lead down fields to `scope`, none of them the name of an
operation where it is met, and no more words do. -/
structure Walks (c : Controller) (path : List Text) (k : Nat) (scope : Controller) : Prop where
  le : k ≤ path.length
  reach : c.reach (path.take k) = some scope
  longest : ∀ j ≤ path.length, (c.reach (path.take j)).isSome → j ≤ k

theorem drop_of_getElem? (hsegment : path[k]? = some segment) :
    path.drop k = segment :: path.drop (k + 1) := by
  obtain ⟨hk, rfl⟩ := List.getElem?_eq_some_iff.1 hsegment
  exact List.drop_eq_getElem_cons hk

/-- The walk goes as far as it can if it ends with the path or at a word where it stops. -/
theorem walks_of_stops (hle : k ≤ path.length) (hreach : c.reach (path.take k) = some scope)
    (hstops : ∀ segment, path[k]? = some segment → scope.Stops segment) :
    c.Walks path k scope := by
  refine ⟨hle, hreach, fun j hj hsome => ?_⟩
  apply Nat.le_of_not_lt
  intro hlt
  obtain ⟨m, rfl⟩ := Nat.exists_eq_add_of_lt hlt
  have hsegment : path[k]? = some path[k] := List.getElem?_eq_getElem (Nat.lt_of_lt_of_le hlt hj)
  have htake : path.take (k + m + 1) =
      path.take k ++ path[k] :: (path.drop (k + 1)).take m := by
    rw [Nat.add_assoc, List.take_add, drop_of_getElem? hsegment, List.take_succ_cons]
  rw [htake, reach_append hreach, (hstops _ hsegment).reach_eq_none] at hsome
  cases hsome

theorem Walks.stops (h : c.Walks path k scope) (hsegment : path[k]? = some segment) :
    scope.Stops segment := by
  by_cases hstops : scope.Stops segment
  · exact hstops
  -- Otherwise the word leads on, and the walk is longer than the longest.
  · rw [Stops, not_or] at hstops
    obtain ⟨f, hfield⟩ := Option.ne_none_iff_exists'.1 hstops.2
    have hlt : k < path.length := (List.getElem?_eq_some_iff.1 hsegment).1
    have hreach : c.reach (path.take (k + 1)) = some f.scope := by
      rw [List.take_add_one, hsegment, reach_append h.reach]
      exact reach_cons_iff.2 ⟨f, hfield, hstops.1, rfl⟩
    have hle : k + 1 ≤ k := h.longest (k + 1) hlt (by rw [hreach]; rfl)
    omega

theorem exists_walks (c : Controller) (path : List Text) : ∃ k scope, c.Walks path k scope := by
  cases hreach : c.reach path with
  | some scope =>
      refine ⟨path.length, scope, walks_of_stops (Nat.le_refl _) ?_ ?_⟩
      · rw [List.take_length, hreach]
      · intro segment hsegment
        rw [List.getElem?_eq_none (Nat.le_refl _)] at hsegment
        cases hsegment
  | none =>
      obtain ⟨front, segment, back, scope, rfl, hfront, hstop⟩ := exists_stop hreach
      refine ⟨front.length, scope, walks_of_stops ?_ ?_ ?_⟩
      · simp
      · rw [List.take_left', hfront]
        rfl
      · intro segment' hsegment
        rw [List.getElem?_append_right (Nat.le_refl _), Nat.sub_self] at hsegment
        cases hsegment
        exact hstop

theorem Walks.length_take (h : c.Walks path k scope) : (path.take k).length = k :=
  List.length_take_of_le h.le

/-- The words that were walked tell how many they are and the scope behind them. -/
theorem Walks.eq_of_take_eq (h : c.Walks path k scope) (h' : c.Walks path' k' scope')
    (htake : path'.take k' = path.take k) : k' = k ∧ scope' = scope := by
  have hk := congrArg List.length htake
  rw [h.length_take, h'.length_take] at hk
  refine ⟨hk, Option.some.inj ?_⟩
  rw [← h'.reach, htake, h.reach]

theorem Walks.unique (h : c.Walks path k scope) (h' : c.Walks path k' scope') :
    k' = k ∧ scope' = scope := by
  have hle : k' ≤ k := h.longest k' h'.le (by rw [h'.reach]; rfl)
  have hge : k ≤ k' := h'.longest k h.le (by rw [h.reach]; rfl)
  apply h.eq_of_take_eq h'
  rw [Nat.le_antisymm hle hge]

theorem Walks.congr (h : c.Walks path k scope) (hle : k ≤ path'.length)
    (htake : path'.take k = path.take k)
    (hstops : ∀ segment, path'[k]? = some segment → scope.Stops segment) :
    c.Walks path' k scope :=
  walks_of_stops hle (htake ▸ h.reach) hstops

/-! ## What is found there -/

/-- What the default operation of the scope makes of a path behind the words `front` that led to
the scope: it is the operation that is called, or else nothing is found. -/
def byDefault (scope : Controller) (front : List Text) (segment : Option Text) :
    Except PathNotFound Resolution :=
  match scope.defaultOperation with
  | some op => .ok ⟨front, op, front.length⟩
  | none => .error ⟨segment, front.length⟩

theorem fallBack_behind (scope : Controller) (front : List Text) (segment : Option Text) :
    ((scope.fallBack segment).map (·.behind front)).mapError (·.behind front) =
      scope.byDefault front segment := by
  unfold fallBack byDefault
  cases scope.defaultOperation <;> simp [Except.map, Resolution.behind, PathNotFound.behind]

theorem byDefault_eq_ok_iff {segment : Option Text} :
    scope.byDefault front segment = .ok res ↔
      ∃ op, scope.defaultOperation = some op ∧ res = ⟨front, op, front.length⟩ := by
  unfold byDefault
  cases scope.defaultOperation <;> simp [eq_comm]

theorem byDefault_eq_error_iff {segment : Option Text} {e : PathNotFound} :
    scope.byDefault front segment = .error e ↔
      scope.defaultOperation = none ∧ e = ⟨segment, front.length⟩ := by
  unfold byDefault
  cases scope.defaultOperation <;> simp [eq_comm]

theorem Walks.resolve_eq (h : c.Walks path k scope) :
    c.resolve path = ((scope.resolve (path.drop k)).map (·.behind (path.take k))).mapError
      (·.behind (path.take k)) := by
  rw [← resolve_append h.reach, List.take_append_drop]

/-- The next word is the name of an operation. -/
theorem Walks.resolve_of_named (h : c.Walks path k scope) (hsegment : path[k]? = some segment)
    (hop : scope.selectOperation segment (path.length - k - 1) = some op) :
    c.resolve path = .ok ⟨path.take k, op, k + 1⟩ := by
  have hback : (path.drop (k + 1)).length = path.length - k - 1 := by
    rw [List.length_drop, Nat.sub_add_eq]
  rw [h.resolve_eq, drop_of_getElem? hsegment, resolve_of_stop (h.stops hsegment), hback, hop]
  simp [Except.map, Resolution.behind, h.length_take]

/-- The next word is no such name, or there is none. -/
theorem Walks.resolve_of_not_named (h : c.Walks path k scope)
    (hname : ∀ segment, path[k]? = some segment → ¬ scope.HasOperation segment) :
    c.resolve path = scope.byDefault (path.take k) path[k]? := by
  rw [h.resolve_eq, ← fallBack_behind]
  cases hsegment : path[k]? with
  | none =>
      have hback : path.drop k = [] := List.drop_eq_nil_of_le (List.getElem?_eq_none_iff.1 hsegment)
      rw [hback, resolve]
  | some segment =>
      rw [drop_of_getElem? hsegment, resolve_of_stop (h.stops hsegment),
        selectOperation_eq_none_iff.2 (hname segment hsegment)]

/-- All that a path can come to behind the words that it is walked over. -/
theorem Walks.resolve_cases (h : c.Walks path k scope) :
    (∃ segment op, path[k]? = some segment ∧
        scope.selectOperation segment (path.length - k - 1) = some op ∧
        c.resolve path = .ok ⟨path.take k, op, k + 1⟩) ∨
      (∀ segment, path[k]? = some segment → ¬ scope.HasOperation segment) ∧
        c.resolve path = scope.byDefault (path.take k) path[k]? := by
  by_cases hnamed : ∃ segment, path[k]? = some segment ∧ scope.HasOperation segment
  · obtain ⟨segment, hsegment, hhas⟩ := hnamed
    obtain ⟨op, hop⟩ := exists_selectOperation hhas (path.length - k - 1)
    exact .inl ⟨segment, op, hsegment, hop, h.resolve_of_named hsegment hop⟩
  · have hname : ∀ segment, path[k]? = some segment → ¬ scope.HasOperation segment :=
      fun segment hsegment hhas => hnamed ⟨segment, hsegment, hhas⟩
    exact .inr ⟨hname, h.resolve_of_not_named hname⟩

/-! ## The words of a path and the arguments behind them -/

theorem mem_of_defaultOperation (h : scope.defaultOperation = some op) : op ∈ scope.operations :=
  List.mem_of_find?_eq_some h

/-- An operation that is found stands in the scope behind the fields, and one word more than these is
consumed where it was named. -/
theorem exists_walks_of_resolve (h : c.resolve path = .ok res) :
    ∃ k scope, c.Walks path k scope ∧ res.fields = path.take k ∧ res.operation ∈ scope.operations ∧
      (res.consumed = k ∨ res.consumed = k + 1 ∧ path[k]? = some res.operation.name) := by
  obtain ⟨k, scope, hwalks⟩ := exists_walks c path
  refine ⟨k, scope, hwalks, ?_⟩
  rcases hwalks.resolve_cases with ⟨segment, op, hsegment, hop, hres⟩ | ⟨-, hres⟩
  · cases h.symm.trans hres
    obtain ⟨hmem, rfl⟩ := mem_of_selectOperation hop
    exact ⟨rfl, hmem, .inr ⟨rfl, hsegment⟩⟩
  · obtain ⟨op, hop, rfl⟩ := byDefault_eq_ok_iff.1 (hres.symm.trans h)
    exact ⟨rfl, mem_of_defaultOperation hop, .inl hwalks.length_take⟩

/-- A path is walked at most to its end. -/
theorem consumed_le (h : c.resolve path = .ok res) : res.consumed ≤ path.length := by
  obtain ⟨k, scope, hwalks, -, -, hk | ⟨hk, hname⟩⟩ := exists_walks_of_resolve h
  · rw [hk]
    exact hwalks.le
  · rw [hk]
    exact (List.getElem?_eq_some_iff.1 hname).1

/-- The words that are consumed are the fields, and the name of the operation where it was named. -/
theorem take_consumed (h : c.resolve path = .ok res) :
    path.take res.consumed = res.fields ∨
      path.take res.consumed = res.fields ++ [res.operation.name] := by
  obtain ⟨k, scope, -, hfields, -, hk | ⟨hk, hname⟩⟩ := exists_walks_of_resolve h
  · left
    rw [hk, hfields]
  · right
    rw [hk, hfields, List.take_add_one, hname]
    rfl

end Controller

namespace Command

variable {tree : Controller} {c : Context}

theorem invoke_controller_of_error (parsers : TypeParsers) {e : PathNotFound}
    (h : tree.resolve c.parameters = .error e) :
    (controller tree parsers).invoke c = .ok notFound := by
  simp only [invoke, h]

theorem invoke_controller_of_ok (parsers : TypeParsers) {res : Resolution}
    (h : tree.resolve c.parameters = .ok res) :
    (controller tree parsers).invoke c =
      (res.operation.invoke ⟨c.skip res.consumed, parsers⟩).mapError
        (·.rebase (c.parameters.take res.consumed)) := by
  simp only [invoke, h]

end Command

namespace Controller

/-- A path is walked over its longest beginning of words that lead down fields, to one scope.  At
the end of the path the default operation of this scope is called; a word behind those that were
walked is the name of the operation that is called, or else is left to the default one.  No more
words are consumed than there are, and a command divides the parameters of a call into the consumed
words and the arguments that the operation is called with. -/
theorem resolve_walk (c : Controller) (path : List Text) :
    (∃ k scope, c.Walks path k scope ∧
        ∀ k' scope', c.Walks path k' scope' → k' = k ∧ scope' = scope) ∧
      (∀ k scope, c.Walks path k scope →
        (k = path.length → c.resolve path = scope.byDefault path none) ∧
        ∀ segment, path[k]? = some segment →
          (scope.HasOperation segment →
            ∃ op, scope.selectOperation segment (path.length - k - 1) = some op ∧
              c.resolve path = .ok ⟨path.take k, op, k + 1⟩) ∧
          (¬ scope.HasOperation segment →
            c.resolve path = scope.byDefault (path.take k) (some segment))) ∧
      ∀ res, c.resolve path = .ok res → res.consumed ≤ path.length ∧
        ∀ (context : Context) (parsers : TypeParsers), context.parameters = path →
          ∃ words arguments, path = words ++ arguments ∧ words.length = res.consumed ∧
            (words = res.fields ∨ words = res.fields ++ [res.operation.name]) ∧
            (context.skip res.consumed).parameters = arguments ∧
            (Command.controller c parsers).invoke context =
              (res.operation.invoke ⟨context.skip res.consumed, parsers⟩).mapError
                (·.rebase words) := by
  refine ⟨?_, fun k scope h => ⟨fun hk => ?_, fun segment hsegment => ?_⟩,
    fun res hres => ⟨consumed_le hres, ?_⟩⟩
  · obtain ⟨k, scope, h⟩ := exists_walks c path
    exact ⟨k, scope, h, fun k' scope' h' => h.unique h'⟩
  · have hend : path[k]? = none := List.getElem?_eq_none (Nat.le_of_eq hk.symm)
    have hresolve := h.resolve_of_not_named fun segment hsegment => by
      rw [hend] at hsegment
      cases hsegment
    rw [hresolve, hend, hk, List.take_length]
  · constructor
    · intro hhas
      obtain ⟨op, hop⟩ := exists_selectOperation hhas (path.length - k - 1)
      exact ⟨op, hop, h.resolve_of_named hsegment hop⟩
    · intro hname
      rw [← hsegment]
      apply h.resolve_of_not_named
      intro segment' hsegment'
      cases hsegment.symm.trans hsegment'
      exact hname
  · rintro context parsers rfl
    exact ⟨context.parameters.take res.consumed, context.parameters.drop res.consumed,
      (List.take_append_drop ..).symm, List.length_take_of_le (consumed_le hres),
      take_consumed hres, rfl, Command.invoke_controller_of_ok parsers hres⟩

theorem reach_sumTree : sumTree.reach ["calc"] = some sums :=
  reach_cons_iff.2 ⟨.declare {} "calc" sums, rfl, by decide, rfl⟩

/-- Behind one field the sum of three is named and gets what follows, and a word that names nothing
is not found, as the scope there has no default operation. -/
theorem resolve_walk_sumTree :
    let path : List Text := ["calc", "add", "1", "2", "3"]
    let miss : List Text := ["calc", "mul"]
    let context : Context := .ofParts path {}
    let arguments : Context := context.skip 2
    sumTree.Walks path 1 sums ∧ sumTree.resolve path = .ok ⟨["calc"], addThree, 2⟩ ∧
      (∃ words, path = words ++ arguments.parameters ∧ words.length = 2 ∧
        (Command.controller sumTree {}).invoke context =
          (addThree.invoke ⟨arguments, {}⟩).mapError (·.rebase words)) ∧
      sumTree.Walks miss 1 sums ∧ sumTree.resolve miss = .error ⟨some "mul".toList, 1⟩ := by
  intro path miss context arguments
  have hwalks : sumTree.Walks path 1 sums :=
    walks_of_stops (by decide) reach_sumTree fun segment hsegment => by
      cases hsegment
      exact .inl (by decide)
  have hwalks' : sumTree.Walks miss 1 sums :=
    walks_of_stops (by decide) reach_sumTree fun segment hsegment => by
      cases hsegment
      exact .inr rfl
  obtain ⟨-, houtcome, hcut⟩ := resolve_walk sumTree path
  obtain ⟨op, hop, hresolve⟩ := ((houtcome 1 sums hwalks).2 _ rfl).1 (by decide)
  obtain rfl : addThree = op := Option.some.inj hop
  obtain ⟨words, _, hpath, hlength, -, rfl, hinvoke⟩ := (hcut _ hresolve).2 context {} rfl
  obtain ⟨-, hmiss, -⟩ := resolve_walk sumTree miss
  exact ⟨hwalks, hresolve, ⟨words, hpath, hlength, hinvoke⟩, hwalks',
    ((hmiss 1 sums hwalks').2 _ rfl).2 (by decide)⟩

end Controller

end LineDispatch
