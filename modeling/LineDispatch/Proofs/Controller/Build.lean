import Mathlib.Data.List.Nodup
import LineDispatch.Proofs.Controller.Walk

/-!
# Scopes that were built

`Controller.build` makes a scope of members in which no name could mean two
things (`Controller.Unambiguous`): no two operations have both name and arity in
common, and no two fields the name.  A tree is built scope by scope, from its
leaves on, so that this holds of every scope in it (`Controller.Built`).

In such a scope an operation is what its name means with as many words behind it
as it has arguments (`Unambiguous.selectOperation_of_mem`), and a field is what
its name means (`Unambiguous.field_of_mem`).
-/

namespace LineDispatch

theorem firstRepeat_eq_none_iff {α : Type} [DecidableEq α] {seen l : List α} :
    firstRepeat seen l = none ↔ l.Nodup ∧ ∀ a ∈ l, a ∉ seen := by
  induction l generalizing seen with
  | nil => simp [firstRepeat]
  | cons a rest ih =>
      rw [firstRepeat]
      split
      · rename_i hseen
        simp [hseen]
      · rename_i hseen
        rw [ih, List.nodup_cons]
        constructor
        · rintro ⟨hrest, hnew⟩
          have ha : a ∉ rest := fun hmem => hnew a hmem List.mem_cons_self
          refine ⟨⟨ha, hrest⟩, List.forall_mem_cons.2 ⟨hseen, fun b hb hbseen => ?_⟩⟩
          exact hnew b hb (List.mem_cons_of_mem _ hbseen)
        · rintro ⟨⟨ha, hrest⟩, hnew⟩
          refine ⟨hrest, fun b hb hmem => ?_⟩
          rcases List.mem_cons.1 hmem with rfl | hbseen
          · exact ha hb
          · exact hnew b (List.mem_cons_of_mem _ hb) hbseen

namespace Controller

variable {c : Controller} {op : Operation} {f : Field}

/-- Whether no name in the scope means two things. -/
structure Unambiguous (c : Controller) : Prop where
  one_default : (c.operations.filter (·.isDefault)).length ≤ 1
  operations_nodup : (c.operations.map fun op => (op.name, op.arity)).Nodup
  fields_nodup : (c.fields.map (·.name)).Nodup

theorem build_eq_ok_iff {typeName : Text} {operations : List Operation} {fields : List Field} :
    build typeName operations fields = .ok c ↔
      c = ⟨typeName, operations, fields⟩ ∧ c.Unambiguous := by
  unfold build
  split
  · rename_i first second rest hdefaults
    constructor
    · intro h
      cases h
    · rintro ⟨rfl, hc⟩
      have := hc.one_default
      simp [hdefaults] at this
  · rename_i hdefaults
    have hone : (operations.filter (·.isDefault)).length ≤ 1 := by
      cases hfilter : operations.filter (·.isDefault) with
      | nil => simp
      | cons first rest =>
          cases rest with
          | nil => simp
          | cons second rest => exact absurd hfilter (hdefaults first second rest)
    split
    · rename_i name arity hrepeat
      constructor
      · intro h
        cases h
      · rintro ⟨rfl, hc⟩
        rw [firstRepeat_eq_none_iff.2 ⟨hc.operations_nodup, by simp⟩] at hrepeat
        cases hrepeat
    · rename_i hoperations
      split
      · rename_i name hrepeat
        constructor
        · intro h
          cases h
        · rintro ⟨rfl, hc⟩
          rw [firstRepeat_eq_none_iff.2 ⟨hc.fields_nodup, by simp⟩] at hrepeat
          cases hrepeat
      · rename_i hfields
        rw [Except.ok.injEq, eq_comm]
        refine ⟨?_, fun h => h.1⟩
        rintro rfl
        exact ⟨rfl, hone, (firstRepeat_eq_none_iff.1 hoperations).1,
          (firstRepeat_eq_none_iff.1 hfields).1⟩

/-- Whether the scope and all scopes in it were built. -/
inductive Built : Controller → Prop
  | build {typeName : Text} {operations : List Operation} {fields : List Field} {c : Controller}
    (hfields : ∀ f ∈ fields, Built f.scope)
    (h : Controller.build typeName operations fields = .ok c) : Built c

theorem Built.unambiguous (h : c.Built) : c.Unambiguous := by
  cases h with
  | build _ h => exact (build_eq_ok_iff.1 h).2

theorem Built.scope (h : c.Built) (hf : f ∈ c.fields) : f.scope.Built := by
  cases h with
  | build hfields h =>
      obtain ⟨rfl, -⟩ := build_eq_ok_iff.1 h
      exact hfields f hf

namespace Unambiguous

/-- With as many words behind it as the operation has arguments its name means that operation. -/
theorem selectOperation_of_mem (hc : c.Unambiguous) (hop : op ∈ c.operations) :
    c.selectOperation op.name op.arity = some op := by
  have hmem : op ∈ c.operations.filter (·.name = op.name) := by simp [hop]
  unfold selectOperation
  split
  · simp_all
  · simp_all
  · have hsome : ((c.operations.filter (·.name = op.name)).find? (·.arity = op.arity)).isSome :=
      List.find?_isSome.2 ⟨op, hmem, by simp⟩
    obtain ⟨other, hother⟩ := Option.isSome_iff_exists.1 hsome
    have harity : other.arity = op.arity := by simpa using List.find?_some hother
    obtain ⟨hothermem, hname⟩ := List.mem_filter.1 (List.mem_of_find?_eq_some hother)
    -- Name and arity are those of one operation only.
    have heq : other = op :=
      List.inj_on_of_nodup_map hc.operations_nodup hothermem hop
        (Prod.ext (of_decide_eq_true hname) harity)
    rw [hother, heq, Option.some_or]

theorem field_of_mem (hc : c.Unambiguous) (hf : f ∈ c.fields) : c.field f.name = some f := by
  cases hfield : c.field f.name with
  | none => exact absurd (List.mem_map_of_mem hf) (field_eq_none_iff.1 hfield)
  | some other =>
      obtain ⟨hmem, hname⟩ := mem_of_field hfield
      rw [List.inj_on_of_nodup_map hc.fields_nodup hmem hf hname]

end Unambiguous

end Controller

end LineDispatch
