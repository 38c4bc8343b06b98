import Mathlib.Data.List.Perm.Basic
import LineDispatch.Proofs.Controller.Reachability

/-!
# Operations of one name

Of the operations that have a name, the one is meant whose arity is the number
of words behind the name; if there is none, the default operation among them;
and if that is not there either, the first of them (`Controller.Preferred`).
Where one operation only has the name the code does not come to this rule, but
the rule says the same (`Controller.selectOperation_eq`).

In a scope that was built the rule means one operation, known by its place, and
the order in which the operations were declared has no say as long as it does
not come to the last case (`Controller.Settled`): an arity belongs to one
operation of the name, and there is one default operation at most
(`Controller.selectOperation_outcome`).
-/

namespace LineDispatch.Controller

variable {c : Controller} {name : Text} {remaining i j : Nat} {op other : Operation}

/-! ## The rule -/

/-- Whether the operation at an index has the name. -/
def Named (c : Controller) (name : Text) (i : Nat) (op : Operation) : Prop :=
  c.operations[i]? = some op ∧ op.name = name

/-- The operation that a name means with so many words behind it, and its index: by the arity, else
by default, else by order. -/
inductive Preferred (c : Controller) (name : Text) (remaining : Nat) : Nat → Operation → Prop
  | arity {i : Nat} {op : Operation} (h : c.Named name i op) (harity : op.arity = remaining) :
    Preferred c name remaining i op
  | default {i : Nat} {op : Operation} (h : c.Named name i op)
    (harity : ∀ j other, c.Named name j other → other.arity ≠ remaining)
    (hdefault : op.isDefault = true) : Preferred c name remaining i op
  | first {i : Nat} {op : Operation} (h : c.Named name i op)
    (harity : ∀ j other, c.Named name j other → other.arity ≠ remaining)
    (hdefault : ∀ j other, c.Named name j other → other.isDefault = false)
    (hfirst : ∀ j other, c.Named name j other → i ≤ j) : Preferred c name remaining i op

/-- Whether it does not come to the order of the operations: one of the name has the arity or is the
default one, or there is one only. -/
def Settled (c : Controller) (name : Text) (remaining : Nat) : Prop :=
  (∃ i op, c.Named name i op ∧ (op.arity = remaining ∨ op.isDefault = true)) ∨
    ∃! i, ∃ op, c.Named name i op

theorem Preferred.named (h : c.Preferred name remaining i op) : c.Named name i op := by
  cases h <;> assumption

theorem mem_named_iff :
    op ∈ c.operations.filter (·.name = name) ↔ ∃ i, c.Named name i op := by
  rw [List.mem_filter, List.mem_iff_getElem?]
  simp [Named]

/-! ## Selection follows the rule -/

/-- Of one candidate the rule for several makes that candidate. -/
theorem selectOperation_eq (c : Controller) (name : Text) (remaining : Nat) :
    c.selectOperation name remaining =
      ((c.operations.filter (·.name = name)).find? (·.arity = remaining)).or
        (((c.operations.filter (·.name = name)).find? (·.isDefault)).or
          (c.operations.filter (·.name = name)).head?) := by
  unfold selectOperation
  split
  · rename_i hnone
    simp [hnone]
  · rename_i only honly
    rw [honly]
    by_cases harity : only.arity = remaining <;> cases hdefault : only.isDefault <;>
      simp [harity, hdefault]
  · rfl

theorem find?_named_eq_none_iff {p : Operation → Bool} :
    (c.operations.filter (·.name = name)).find? p = none ↔
      ∀ i op, c.Named name i op → p op = false := by
  rw [List.find?_eq_none]
  constructor
  · intro h i op hop
    simpa using h op (mem_named_iff.2 ⟨i, hop⟩)
  · intro h op hop
    obtain ⟨i, hi⟩ := mem_named_iff.1 hop
    simp [h i op hi]

theorem exists_named_of_find? {p : Operation → Bool}
    (h : (c.operations.filter (·.name = name)).find? p = some op) :
    p op = true ∧ ∃ i, c.Named name i op :=
  ⟨List.find?_some h, mem_named_iff.1 (List.mem_of_find?_eq_some h)⟩

/-- The first operation of the name in the list of all. -/
theorem head?_named_eq_some_iff :
    (c.operations.filter (·.name = name)).head? = some op ↔
      ∃ i, c.Named name i op ∧ ∀ j other, c.Named name j other → i ≤ j := by
  rw [List.head?_filter, List.find?_eq_some_iff_getElem]
  constructor
  · rintro ⟨hname, i, hi, hop, hbefore⟩
    refine ⟨i, ⟨?_, of_decide_eq_true hname⟩, fun j other hother => ?_⟩
    · rw [← hop]
      exact List.getElem?_eq_getElem hi
    · apply Nat.le_of_not_lt
      intro hlt
      obtain ⟨hj, rfl⟩ := List.getElem?_eq_some_iff.1 hother.1
      have hnot := hbefore j hlt
      simp [hother.2] at hnot
  · rintro ⟨i, ⟨hi, hname⟩, hfirst⟩
    obtain ⟨hlt, hop⟩ := List.getElem?_eq_some_iff.1 hi
    refine ⟨decide_eq_true hname, i, hlt, hop, fun j hj => ?_⟩
    have hjlt : j < c.operations.length := Nat.lt_trans hj hlt
    have hne : c.operations[j].name ≠ name := by
      intro hsame
      exact Nat.not_le_of_lt hj (hfirst j _ ⟨List.getElem?_eq_getElem hjlt, hsame⟩)
    simp [hne]

/-- What is selected is what the rule means, in any scope. -/
theorem exists_preferred (h : c.selectOperation name remaining = some op) :
    ∃ i, c.Preferred name remaining i op := by
  rw [selectOperation_eq] at h
  rcases Option.or_eq_some_iff.1 h with harity | ⟨hnoArity, h⟩
  · obtain ⟨harity, i, hi⟩ := exists_named_of_find? harity
    exact ⟨i, .arity hi (of_decide_eq_true harity)⟩
  · have harity : ∀ j other, c.Named name j other → other.arity ≠ remaining :=
      fun j other hother => of_decide_eq_false (find?_named_eq_none_iff.1 hnoArity j other hother)
    rcases Option.or_eq_some_iff.1 h with hdefault | ⟨hnoDefault, hhead⟩
    · obtain ⟨hdefault, i, hi⟩ := exists_named_of_find? hdefault
      exact ⟨i, .default hi harity hdefault⟩
    · obtain ⟨i, hi, hfirst⟩ := head?_named_eq_some_iff.1 hhead
      exact ⟨i, .first hi harity (find?_named_eq_none_iff.1 hnoDefault) hfirst⟩

/-! ## Scopes in which no name means two things -/

namespace Unambiguous

/-- Behind a default operation there is no other. -/
theorem not_default_of_lt (hc : c.Unambiguous) (h : c.operations[i]? = some op)
    (hdefault : op.isDefault = true) (h' : c.operations[j]? = some other) (hlt : i < j) :
    other.isDefault = false := by
  obtain ⟨hi, rfl⟩ := List.getElem?_eq_some_iff.1 h
  have hsub : ((c.operations.drop i).filter (·.isDefault)).length ≤ 1 :=
    Nat.le_trans ((List.drop_sublist i _).filter _).length_le hc.one_default
  rw [List.drop_eq_getElem_cons hi, List.filter_cons_of_pos hdefault, List.length_cons] at hsub
  have hnone : (c.operations.drop (i + 1)).filter (·.isDefault) = [] :=
    List.eq_nil_of_length_eq_zero (Nat.le_zero.1 (Nat.le_of_succ_le_succ hsub))
  have hmem : other ∈ c.operations.drop (i + 1) := by
    apply List.mem_of_getElem? (i := j - (i + 1))
    rw [List.getElem?_drop, Nat.add_sub_cancel' hlt]
    exact h'
  simpa using List.filter_eq_nil_iff.1 hnone other hmem

theorem default_unique (hc : c.Unambiguous) (h : c.operations[i]? = some op)
    (h' : c.operations[j]? = some other) (hdefault : op.isDefault = true)
    (hdefault' : other.isDefault = true) : i = j := by
  rcases Nat.lt_trichotomy i j with hlt | heq | hlt
  · rw [hc.not_default_of_lt h hdefault h' hlt] at hdefault'
    cases hdefault'
  · exact heq
  · rw [hc.not_default_of_lt h' hdefault' h hlt] at hdefault
    cases hdefault

/-- The rule means one place. -/
theorem preferred_unique (hc : c.Unambiguous) (h : c.Preferred name remaining i op)
    (h' : c.Preferred name remaining j other) : i = j := by
  cases h with
  | arity h harity =>
      cases h' with
      | arity h' harity' =>
          exact hc.index_unique h.1 h'.1 (h.2.trans h'.2.symm) (harity.trans harity'.symm)
      | default _ hnone | first _ hnone => exact absurd harity (hnone i op h)
  | default h hnone hdefault =>
      cases h' with
      | arity h' harity' => exact absurd harity' (hnone j other h')
      | default h' _ hdefault' => exact hc.default_unique h.1 h'.1 hdefault hdefault'
      | first _ _ hno =>
          rw [hno i op h] at hdefault
          cases hdefault
  | first h hnone hno hfirst =>
      cases h' with
      | arity h' harity' => exact absurd harity' (hnone j other h')
      | default h' _ hdefault' =>
          rw [hno j other h'] at hdefault'
          cases hdefault'
      | first h' _ _ hfirst' => exact Nat.le_antisymm (hfirst j other h') (hfirst' i op h)

theorem selectOperation_eq_some_iff (hc : c.Unambiguous) :
    c.selectOperation name remaining = some op ↔ ∃ i, c.Preferred name remaining i op := by
  constructor
  · exact exists_preferred
  · rintro ⟨i, hi⟩
    have hhas : c.HasOperation name := ⟨op, List.mem_of_getElem? hi.named.1, hi.named.2⟩
    obtain ⟨other, hother⟩ := exists_selectOperation hhas remaining
    obtain ⟨j, hj⟩ := exists_preferred hother
    obtain rfl := hc.preferred_unique hi hj
    rw [hother, ← hi.named.1, ← hj.named.1]

/-- The order of the operations does not matter to what is asked of a scope. -/
theorem perm {operations : List Operation} (hc : c.Unambiguous)
    (h : operations.Perm c.operations) :
    (⟨c.typeName, operations, c.fields⟩ : Controller).Unambiguous where
  one_default := by
    rw [(h.filter _).length_eq]
    exact hc.one_default
  operations_nodup := (h.map _).nodup_iff.2 hc.operations_nodup
  fields_nodup := hc.fields_nodup

end Unambiguous

/-! ## The order of declaration -/

section Reordered

variable {c' : Controller}

/-- In another order the operations of a name are the same, at other places. -/
theorem Named.reordered (hperm : c'.operations.Perm c.operations) (h : c.Named name i op) :
    ∃ j, c'.Named name j op := by
  obtain ⟨j, hj⟩ := List.mem_iff_getElem?.1 (hperm.mem_iff.2 (List.mem_of_getElem? h.1))
  exact ⟨j, hj, h.2⟩

/-- The first two cases of the rule do not look at places. -/
theorem Preferred.reordered (hperm : c'.operations.Perm c.operations)
    (h : c.Preferred name remaining i op)
    (hlast : ∃ j other, c.Named name j other ∧ (other.arity = remaining ∨ other.isDefault = true)) :
    ∃ j, c'.Preferred name remaining j op := by
  obtain ⟨j, hj⟩ := h.named.reordered hperm
  cases h with
  | arity h harity => exact ⟨j, .arity hj harity⟩
  | default h hnone hdefault =>
      refine ⟨j, .default hj (fun k other hother => ?_) hdefault⟩
      obtain ⟨k', hk'⟩ := hother.reordered hperm.symm
      exact hnone k' other hk'
  | first h hnone hno =>
      obtain ⟨k, other, hother, harity | hdefault⟩ := hlast
      · exact absurd harity (hnone k other hother)
      · rw [hno k other hother] at hdefault
        cases hdefault

theorem selectOperation_reordered (hc' : c'.Unambiguous)
    (hperm : c'.operations.Perm c.operations) (hsettled : c.Settled name remaining) :
    c'.selectOperation name remaining = c.selectOperation name remaining := by
  obtain ⟨i, op, hop⟩ : ∃ i op, c.Named name i op := by
    rcases hsettled with ⟨i, op, hop, -⟩ | ⟨i, ⟨op, hop⟩, -⟩
    · exact ⟨i, op, hop⟩
    · exact ⟨i, op, hop⟩
  have hhas : c.HasOperation name := ⟨op, List.mem_of_getElem? hop.1, hop.2⟩
  obtain ⟨chosen, hchosen⟩ := exists_selectOperation hhas remaining
  rw [hchosen]
  obtain ⟨k, hk⟩ := exists_preferred hchosen
  rcases hsettled with hlast | ⟨_, -, honly⟩
  · exact hc'.selectOperation_eq_some_iff.2 (hk.reordered hperm hlast)
  -- Whatever is selected in the other order has the name, and one operation only has it.
  · obtain ⟨l, hl⟩ := hk.named.reordered hperm
    have hhas' : c'.HasOperation name := ⟨chosen, List.mem_of_getElem? hl.1, hl.2⟩
    obtain ⟨chosen', hchosen'⟩ := exists_selectOperation hhas' remaining
    obtain ⟨k', hk'⟩ := exists_preferred hchosen'
    obtain ⟨l', hl'⟩ := hk'.named.reordered hperm.symm
    have hplace : l' = k := (honly l' ⟨chosen', hl'⟩).trans (honly k ⟨chosen, hk.named⟩).symm
    rw [hchosen', ← hl'.1, ← hk.named.1, hplace]

end Reordered

/-- In a scope that was built a name means no operation if none has it.  Otherwise what is selected
is the one that the rule means, at one place; any other order of the same operations makes a scope
as well, in which the same one is selected unless it comes to the order by the rule; and where one
operation only has the name, the rule means that one whatever follows. -/
theorem selectOperation_outcome {typeName : Text} {operations : List Operation}
    {fields : List Field} (hbuild : build typeName operations fields = .ok c) (name : Text)
    (remaining : Nat) :
    (c.selectOperation name remaining = none ↔ ∀ op ∈ operations, op.name ≠ name) ∧
      (∀ op, c.selectOperation name remaining = some op ↔
        ∃! i, c.Preferred name remaining i op) ∧
      (∀ operations', operations'.Perm operations →
        ∃ c', build typeName operations' fields = .ok c' ∧
          (c.Settled name remaining →
            c'.selectOperation name remaining = c.selectOperation name remaining)) ∧
      ∀ op, operations.filter (·.name = name) = [op] → ∃! i, c.Preferred name remaining i op := by
  obtain ⟨rfl, hc⟩ := build_eq_ok_iff.1 hbuild
  have hrule : ∀ op, Controller.selectOperation ⟨typeName, operations, fields⟩ name remaining =
      some op ↔ ∃! i, Controller.Preferred ⟨typeName, operations, fields⟩ name remaining i op := by
    intro op
    rw [hc.selectOperation_eq_some_iff]
    constructor
    · rintro ⟨i, hi⟩
      exact ⟨i, hi, fun j hj => hc.preferred_unique hj hi⟩
    · rintro ⟨i, hi, -⟩
      exact ⟨i, hi⟩
  refine ⟨?_, hrule, ?_, ?_⟩
  · rw [selectOperation_eq_none_iff, HasOperation]
    push Not
    rfl
  · intro operations' hperm
    have hc' := hc.perm hperm
    exact ⟨_, build_eq_ok_iff.2 ⟨rfl, hc'⟩, selectOperation_reordered hc' hperm⟩
  · intro op honly
    apply (hrule op).1
    rw [selectOperation, honly]

/-- With three words behind the name the sum of three is meant, in either order of the two sums. -/
theorem selectOperation_outcome_sums :
    build "Math" [addTwo, addThree] [] = .ok sums ∧ sums.Settled "add" 3 ∧
      sums.selectOperation "add" 3 = some addThree ∧
      (∃! i, sums.Preferred "add" 3 i addThree) ∧
      ∃ c', build "Math" [addThree, addTwo] [] = .ok c' ∧
        c'.selectOperation "add" 3 = some addThree := by
  have hbuild : build "Math" [addTwo, addThree] [] = .ok sums :=
    build_eq_ok_iff.2 ⟨rfl, by decide, by decide, by decide⟩
  have hsettled : sums.Settled "add" 3 := .inl ⟨1, addThree, ⟨rfl, by decide⟩, .inl (by decide)⟩
  have hselected : sums.selectOperation "add" 3 = some addThree := rfl
  obtain ⟨-, hrule, hreorder, -⟩ := selectOperation_outcome hbuild "add" 3
  obtain ⟨c', hbuild', hsame⟩ := hreorder [addThree, addTwo] (List.Perm.swap addTwo addThree [])
  exact ⟨hbuild, hsettled, hselected, (hrule addThree).1 hselected, c', hbuild',
    (hsame hsettled).trans hselected⟩

/-- With one word it comes to the order, and the first is meant. -/
example :
    sums.selectOperation "add" 1 = some addTwo ∧
      (⟨"Math", [addThree, addTwo], []⟩ : Controller).selectOperation "add" 1 = some addThree :=
  ⟨rfl, rfl⟩

end LineDispatch.Controller
