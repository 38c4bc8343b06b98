import Mathlib.Data.List.Induction
import LineDispatch.Suggestion

/-!
# The closest names

The candidates are gone through in order, and one of them is held, which gives way
only to one that is strictly closer.  So what is held after some candidates is the
first of those that are closest (`best_eq`), and a suggestion is
that candidate (`suggestSimilar_eq_some_iff`), as long as one is close enough at all
(`suggestSimilar_eq_none_iff`).
-/

namespace LineDispatch

variable {name c : Text} {candidates : List Text}

/-- The first of the candidates that are closest to a name, if it is close enough. -/
structure FirstClosest (name : Text) (candidates : List Text) (c : Text) : Prop where
  close : nameDistance name c ≤ suggestionDistance
  least : ∀ x ∈ candidates, nameDistance name c ≤ nameDistance name x
  first : ∃ front back, candidates = front ++ c :: back ∧
    ∀ x ∈ front, nameDistance name c < nameDistance name x

theorem FirstClosest.mem (h : FirstClosest name candidates c) : c ∈ candidates := by
  obtain ⟨front, back, rfl, -⟩ := h.first
  exact List.mem_append_right front List.mem_cons_self

/-- There is only one such candidate: of two, neither could stand in front of the other. -/
theorem FirstClosest.unique {c' : Text} (h : FirstClosest name candidates c)
    (h' : FirstClosest name candidates c') : c = c' := by
  obtain ⟨front, back, hcandidates, hfront⟩ := h.first
  obtain ⟨front', back', hcandidates', hfront'⟩ := h'.first
  have hle : nameDistance name c ≤ nameDistance name c' := h.least c' h'.mem
  have hle' : nameDistance name c' ≤ nameDistance name c := h'.least c h.mem
  have hnot : c ∉ front' := fun hmem => Nat.not_lt.2 hle (hfront' c hmem)
  have hnot' : c' ∉ front := fun hmem => Nat.not_lt.2 hle' (hfront c' hmem)
  rw [hcandidates] at hcandidates'
  rcases List.append_eq_append_iff.1 hcandidates' with ⟨between, hbetween, hrest⟩ |
    ⟨between, hbetween, hrest⟩
  · cases between with
    | nil => exact (List.cons.inj hrest).1
    | cons x between =>
        obtain ⟨rfl, -⟩ := List.cons.inj hrest
        rw [hbetween] at hnot
        exact absurd (List.mem_append_right front List.mem_cons_self) hnot
  · cases between with
    | nil => exact (List.cons.inj hrest).1.symm
    | cons x between =>
        obtain ⟨rfl, -⟩ := List.cons.inj hrest
        rw [hbetween] at hnot'
        exact absurd (List.mem_append_right front' List.mem_cons_self) hnot'

/-! ## Candidates one by one -/

/-- The candidate that is held after some candidates, with its distance. -/
def best (name : Text) (candidates : List Text) : Option (Text × Nat) :=
  ((candidates.map fun c => (c, nameDistance name c)).filter (·.2 ≤ suggestionDistance)).foldl
    closer none

theorem best_concat (name : Text) (candidates : List Text) (x : Text) :
    best name (candidates ++ [x]) =
      if nameDistance name x ≤ suggestionDistance then
        closer (best name candidates) (x, nameDistance name x)
      else best name candidates := by
  unfold best
  rw [List.map_append, List.filter_append, List.foldl_append]
  split <;> rename_i h <;> simp [h]

/-- A candidate that is not closer than the one that is held changes nothing. -/
theorem FirstClosest.concat {x : Text} (h : FirstClosest name candidates c)
    (hx : nameDistance name c ≤ nameDistance name x) : FirstClosest name (candidates ++ [x]) c := by
  obtain ⟨front, back, hcandidates, hfront⟩ := h.first
  refine ⟨h.close, fun y hy => ?_, front, back ++ [x], ?_, hfront⟩
  · rcases List.mem_append.1 hy with hy | hy
    · exact h.least y hy
    · obtain rfl := List.mem_singleton.1 hy
      exact hx
  · rw [hcandidates, List.append_assoc, List.cons_append]

/-- A candidate that is closer than all in front of it takes their place. -/
theorem firstClosest_concat {x : Text} (hclose : nameDistance name x ≤ suggestionDistance)
    (h : ∀ y ∈ candidates, nameDistance name x < nameDistance name y) :
    FirstClosest name (candidates ++ [x]) x := by
  refine ⟨hclose, fun y hy => ?_, candidates, [], rfl, h⟩
  rcases List.mem_append.1 hy with hy | hy
  · exact Nat.le_of_lt (h y hy)
  · obtain rfl := List.mem_singleton.1 hy
    exact Nat.le_refl _

theorem best_eq (name : Text) (candidates : List Text) :
    best name candidates = none ∧ (∀ x ∈ candidates, suggestionDistance < nameDistance name x) ∨
      ∃ c, best name candidates = some (c, nameDistance name c) ∧
        FirstClosest name candidates c := by
  induction candidates using List.reverseRecOn with
  | nil => exact .inl ⟨rfl, by simp⟩
  | append_singleton candidates x ih =>
      rw [best_concat]
      by_cases hclose : nameDistance name x ≤ suggestionDistance
      · right
        rw [if_pos hclose]
        rcases ih with ⟨hnone, hfar⟩ | ⟨c, hbest, hc⟩
        · refine ⟨x, by rw [hnone]; rfl, firstClosest_concat hclose fun y hy => ?_⟩
          exact Nat.lt_of_le_of_lt hclose (hfar y hy)
        · rw [hbest]
          by_cases hlt : nameDistance name x < nameDistance name c
          · refine ⟨x, by simp [closer, hlt], firstClosest_concat hclose fun y hy => ?_⟩
            exact Nat.lt_of_lt_of_le hlt (hc.least y hy)
          · exact ⟨c, by simp [closer, hlt], hc.concat (Nat.le_of_not_lt hlt)⟩
      · rw [if_neg hclose]
        rcases ih with ⟨hnone, hfar⟩ | ⟨c, hbest, hc⟩
        · refine .inl ⟨hnone, fun y hy => ?_⟩
          rcases List.mem_append.1 hy with hy | hy
          · exact hfar y hy
          · obtain rfl := List.mem_singleton.1 hy
            exact Nat.lt_of_not_le hclose
        · refine .inr ⟨c, hbest, hc.concat ?_⟩
          exact Nat.le_trans hc.close (Nat.le_of_not_le hclose)

/-! ## The suggestion -/

theorem suggestSimilar_eq_best (name : Text) (candidates : List Text) :
    suggestSimilar name candidates = (best name candidates).map Prod.fst := rfl

theorem suggestSimilar_eq_none_iff :
    suggestSimilar name candidates = none ↔
      ∀ x ∈ candidates, suggestionDistance < nameDistance name x := by
  rw [suggestSimilar_eq_best]
  rcases best_eq name candidates with ⟨hnone, hfar⟩ | ⟨c, hbest, hc⟩
  · exact iff_of_true (by rw [hnone]; rfl) hfar
  · refine iff_of_false (by simp [hbest]) fun hfar => ?_
    exact Nat.not_lt.2 hc.close (hfar c hc.mem)

theorem suggestSimilar_eq_some_iff :
    suggestSimilar name candidates = some c ↔ FirstClosest name candidates c := by
  rw [suggestSimilar_eq_best]
  rcases best_eq name candidates with ⟨hnone, hfar⟩ | ⟨c', hbest, hc'⟩
  · refine iff_of_false (by simp [hnone]) fun hc => ?_
    exact Nat.not_lt.2 hc.close (hfar c hc.mem)
  · rw [hbest]
    constructor
    · intro hsome
      obtain rfl : c' = c := Option.some.inj hsome
      exact hc'
    · intro hc
      rw [hc.unique hc']
      rfl

/-- With a candidate that is close enough there is a suggestion, which is one of the candidates and
at least as close. -/
theorem exists_suggestSimilar {candidate : Text} (hmem : candidate ∈ candidates)
    (hclose : nameDistance name candidate ≤ suggestionDistance) :
    ∃ s ∈ candidates, suggestSimilar name candidates = some s ∧
      nameDistance name s ≤ nameDistance name candidate := by
  cases hsuggest : suggestSimilar name candidates with
  | none => exact absurd (suggestSimilar_eq_none_iff.1 hsuggest candidate hmem) (Nat.not_lt.2 hclose)
  | some s =>
      have hs := suggestSimilar_eq_some_iff.1 hsuggest
      exact ⟨s, hs.mem, rfl, hs.least candidate hmem⟩

end LineDispatch
