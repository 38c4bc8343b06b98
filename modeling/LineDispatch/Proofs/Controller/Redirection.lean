import LineDispatch.Proofs.Controller.Dispatch

/-!
# Arguments do not redirect a call

Once the words of a path have led to an operation, the words behind them are its
arguments.  Two paths of one length that begin with the same words of a call are
walked over the same fields and come to the same operation, whatever their
arguments are, with one exception (`Controller.resolve_congr`).  The default
operation of a scope is also called for a word that names nothing there, which
is then its first argument.  Another word in this place must name nothing
either: the name of an operation would call that one, and the name of a field
would lead on.

A word that names nothing in a scope without a default operation ends the walk,
and nothing behind it is looked at, so there the paths need not be of one length.
-/

namespace LineDispatch.Controller

variable {c scope : Controller} {segment segment' : Text} {path path' : List Text} {k : Nat}
  {op : Operation} {res : Resolution}

/-- Whether a word names neither an operation nor a field of the scope. -/
def Unmatched (c : Controller) (segment : Text) : Prop :=
  ¬ c.HasOperation segment ∧ c.field segment = none

theorem Stops.unmatched (h : c.Stops segment) (hname : ¬ c.HasOperation segment) :
    c.Unmatched segment :=
  ⟨hname, h.resolve_left hname⟩

/-! ## Two paths with a common beginning -/

theorem take_of_take_succ (h : path'.take (k + 1) = path.take (k + 1)) :
    path'.take k = path.take k := by
  calc path'.take k
      = (path'.take (k + 1)).take k := by rw [List.take_take, Nat.min_eq_left (Nat.le_succ k)]
    _ = (path.take (k + 1)).take k := by rw [h]
    _ = path.take k := by rw [List.take_take, Nat.min_eq_left (Nat.le_succ k)]

theorem getElem?_of_take_succ (h : path'.take (k + 1) = path.take (k + 1)) :
    path'[k]? = path[k]? := by
  rw [← List.getElem?_take_of_succ, h, List.getElem?_take_of_succ]

/-- The walk ends at a word that both paths have. -/
theorem Walks.congr_succ (h : c.Walks path k scope) (hsegment : path[k]? = some segment)
    (htake : path'.take (k + 1) = path.take (k + 1)) :
    path'[k]? = some segment ∧ c.Walks path' k scope := by
  have hsegment' : path'[k]? = some segment := (getElem?_of_take_succ htake).trans hsegment
  refine ⟨hsegment', h.congr ?_ (take_of_take_succ htake) ?_⟩
  · exact Nat.le_of_lt (List.getElem?_eq_some_iff.1 hsegment').1
  · intro other hother
    cases hsegment'.symm.trans hother
    exact h.stops hsegment

/-- An operation that was named is named by every path of the length with the same words up to its
name. -/
theorem Walks.resolve_congr_of_named (h : c.Walks path k scope) (hsegment : path[k]? = some segment)
    (hop : scope.selectOperation segment (path.length - k - 1) = some op)
    (hlength : path'.length = path.length) (htake : path'.take (k + 1) = path.take (k + 1)) :
    c.resolve path' = .ok ⟨path.take k, op, k + 1⟩ := by
  obtain ⟨hsegment', hwalks⟩ := h.congr_succ hsegment htake
  rw [← hlength] at hop
  rw [← take_of_take_succ htake]
  exact hwalks.resolve_of_named hsegment' hop

/-- The default operation of the scope is called if and only if the word in front of which the walk
ended names nothing there. -/
theorem Walks.resolve_congr_of_default (h : c.Walks path k scope)
    (hop : scope.defaultOperation = some op) (htake : path'.take k = path.take k)
    (hsegment' : path'[k]? = some segment') :
    c.resolve path' = .ok ⟨path.take k, op, k⟩ ↔ scope.Unmatched segment' := by
  have hlt : k < path'.length := (List.getElem?_eq_some_iff.1 hsegment').1
  constructor
  · intro hresolve
    obtain ⟨k', scope', hwalks⟩ := exists_walks c path'
    rcases hwalks.resolve_cases with ⟨other, op', -, -, hres⟩ | ⟨hname, hres⟩
    -- An operation that was named would have taken one word more.
    · have heq := Except.ok.inj (hres.symm.trans hresolve)
      obtain ⟨hk, -⟩ := h.eq_of_take_eq hwalks (congrArg Resolution.fields heq)
      have hconsumed : k' + 1 = k := congrArg Resolution.consumed heq
      omega
    · obtain ⟨op', -, heq⟩ := byDefault_eq_ok_iff.1 (hres.symm.trans hresolve)
      obtain ⟨rfl, rfl⟩ := h.eq_of_take_eq hwalks (congrArg Resolution.fields heq).symm
      exact (hwalks.stops hsegment').unmatched (hname segment' hsegment')
  · intro hunmatched
    have hwalks : c.Walks path' k scope := h.congr (Nat.le_of_lt hlt) htake fun other hother => by
      cases hsegment'.symm.trans hother
      exact .inr hunmatched.2
    have hresolve := hwalks.resolve_of_not_named fun other hother => by
      cases hsegment'.symm.trans hother
      exact hunmatched.1
    rw [hresolve, byDefault_eq_ok_iff, htake, h.length_take]
    exact ⟨op, hop, rfl⟩

/-- A word that names nothing in a scope without a default operation is not found in any path that
has the same words up to it. -/
theorem Walks.resolve_congr_of_missing (h : c.Walks path k scope)
    (hsegment : path[k]? = some segment) (hname : ¬ scope.HasOperation segment)
    (hop : scope.defaultOperation = none) (htake : path'.take (k + 1) = path.take (k + 1)) :
    c.resolve path' = .error ⟨some segment, k⟩ := by
  obtain ⟨hsegment', hwalks⟩ := h.congr_succ hsegment htake
  have hresolve := hwalks.resolve_of_not_named fun other hother => by
    cases hsegment'.symm.trans hother
    exact hname
  rw [hresolve, hsegment', byDefault_eq_error_iff, hwalks.length_take]
  exact ⟨hop, rfl⟩

/-- A path of the same length that begins with the words consumed by a call leads to the same
operation if and only if it has no word of a path in place of an argument: where the default
operation got a first argument that names nothing in its scope, the word in the same place names
nothing there either.  A path with a word that is not found leads nowhere, whatever stands behind
this word. -/
theorem resolve_congr (c : Controller) (path path' : List Text) :
    (∀ res, c.resolve path = .ok res → path'.length = path.length →
      path'.take res.consumed = path.take res.consumed →
      (c.resolve path' = .ok res ↔
        ∀ scope segment segment', c.reach (path.take res.consumed) = some scope →
          path[res.consumed]? = some segment → scope.Unmatched segment →
          path'[res.consumed]? = some segment' → scope.Unmatched segment')) ∧
      ∀ segment depth, c.resolve path = .error ⟨some segment, depth⟩ →
        path'.take (depth + 1) = path.take (depth + 1) →
        c.resolve path' = .error ⟨some segment, depth⟩ := by
  obtain ⟨k, scope, hwalks⟩ := exists_walks c path
  constructor
  · intro res hres hlength htake
    rcases hwalks.resolve_cases with ⟨segment, op, hsegment, hop, hres'⟩ | ⟨hname, hres'⟩
    · cases hres.symm.trans hres'
      refine iff_of_true (hwalks.resolve_congr_of_named hsegment hop hlength htake) ?_
      -- The name of the operation does not lead on, so the condition asks for nothing.
      intro scope' _ _ hreach
      have hlt : k < path.length := (List.getElem?_eq_some_iff.1 hsegment).1
      have hle : k + 1 ≤ k := hwalks.longest (k + 1) hlt (by rw [hreach]; rfl)
      omega
    · obtain ⟨op, hop, rfl⟩ := byDefault_eq_ok_iff.1 (hres'.symm.trans hres)
      simp only [hwalks.length_take] at htake hres ⊢
      cases hsegment : path[k]? with
      -- The path ended there, and the other one is the same path.
      | none =>
          have hle : path.length ≤ k := List.getElem?_eq_none_iff.1 hsegment
          have hpath : path' = path := by
            rwa [List.take_of_length_le (hlength ▸ hle), List.take_of_length_le hle] at htake
          refine iff_of_true (hpath ▸ hres) ?_
          intro _ _ _ _ h
          cases h
      | some segment =>
          have hunmatched : scope.Unmatched segment :=
            (hwalks.stops hsegment).unmatched (hname segment hsegment)
          have hlt : k < path.length := (List.getElem?_eq_some_iff.1 hsegment).1
          have hsegment' : path'[k]? = some path'[k] := List.getElem?_eq_getElem (by omega)
          rw [hwalks.resolve_congr_of_default hop htake hsegment']
          constructor
          · intro h scope' _ other hreach _ _ hother
            cases hwalks.reach.symm.trans hreach
            cases hsegment'.symm.trans hother
            exact h
          · intro h
            exact h scope segment path'[k] hwalks.reach rfl hunmatched hsegment'
  · intro segment depth hres htake
    rcases hwalks.resolve_cases with ⟨_, _, _, _, hres'⟩ | ⟨hname, hres'⟩
    · cases hres.symm.trans hres'
    · obtain ⟨hop, heq⟩ := byDefault_eq_error_iff.1 (hres'.symm.trans hres)
      obtain ⟨hsegment, hdepth⟩ := PathNotFound.mk.inj heq
      rw [hwalks.length_take] at hdepth
      rw [hdepth] at htake ⊢
      exact hwalks.resolve_congr_of_missing hsegment.symm (hname segment hsegment.symm) hop htake

/-- Names of fields and operations as arguments, behind the name of an operation and behind a word
that names nothing; only in the place of this word the name of a field leads elsewhere. -/
theorem resolve_congr_sumTree :
    let named : List Text := ["calc", "add", "1", "2", "3"]
    let named' : List Text := ["calc", "add", "math", "calc", "add"]
    let left : List Text := ["up", "1"]
    let left' : List Text := ["down", "calc"]
    let entered : List Text := ["calc", "1"]
    let missed : List Text := ["calc", "mul"]
    let missed' : List Text := ["calc", "mul", "math"]
    let root : Operation := .declare { isDefault := true } "math" [] fun _ => .ok []
    sumTree.resolve named = .ok ⟨["calc"], addThree, 2⟩ ∧
      sumTree.resolve named' = .ok ⟨["calc"], addThree, 2⟩ ∧
      sumTree.resolve left = .ok ⟨[], root, 0⟩ ∧ sumTree.resolve left' = .ok ⟨[], root, 0⟩ ∧
      sumTree.resolve entered ≠ .ok ⟨[], root, 0⟩ ∧
      sumTree.resolve missed = .error ⟨some "mul".toList, 1⟩ ∧
      sumTree.resolve missed' = .error ⟨some "mul".toList, 1⟩ := by
  intro named named' left left' entered missed missed' root
  have hnamed : sumTree.resolve named = .ok ⟨["calc"], addThree, 2⟩ := rfl
  have hleft : sumTree.resolve left = .ok ⟨[], root, 0⟩ := rfl
  have hmissed : sumTree.resolve missed = .error ⟨some "mul".toList, 1⟩ := rfl
  have hnamed' := (resolve_congr sumTree named named').1 _ hnamed rfl rfl
  have hleft' := (resolve_congr sumTree left left').1 _ hleft rfl rfl
  have hentered := (resolve_congr sumTree left entered).1 _ hleft rfl rfl
  have hmissed' := (resolve_congr sumTree missed missed').2 _ _ hmissed rfl
  refine ⟨hnamed, hnamed'.2 ?_, hleft, hleft'.2 ?_, fun h => ?_, hmissed, hmissed'⟩
  · intro scope _ _ hreach
    cases hreach
  · intro scope _ _ hreach _ _ hother
    cases hreach
    cases hother
    exact ⟨by decide, rfl⟩
  · have hfield := (hentered.1 h sumTree _ _ rfl rfl ⟨by decide, rfl⟩ rfl).2
    cases hfield

end LineDispatch.Controller
