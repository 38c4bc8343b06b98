import Mathlib.Logic.ExistsUnique
import LineDispatch.Proofs.Controller.Dispatch
import LineDispatch.Proofs.Controller.Usage

/-!
# The operations that can be called

An operation of a tree is known by its place: the fields that lead to its scope
and its index among the operations there (`Controller.StandsAt`).  In a built
tree the place is found again from what a path leads to, since no two operations
of a scope have name and arity in common (`StandsAt.index_unique`).

Some path leads to an operation if and only if none of its fields is shadowed
(`Controller.reachable_iff`).  The walk stops at the name of an operation, so
the fields that it went down are clear of such names
(`not_shadowed_of_reach`); and where the fields are clear they can be walked, and
the name with as many arguments as the operation takes is its own.  Other
operations of the name and the default one of the scope hide none.
-/

namespace LineDispatch.Controller

variable {c scope : Controller} {path : List Text} {i j : Nat} {op op' : Operation}
  {res : Resolution}

/-! ## Places of operations -/

/-- Whether an operation stands at an index among those of the scope under the fields of a path. -/
inductive StandsAt : Controller → List Text → Nat → Operation → Prop
  | here {c : Controller} {i : Nat} {op : Operation} (hop : c.operations[i]? = some op) :
    StandsAt c [] i op
  | under {c : Controller} {f : Field} {path : List Text} {i : Nat} {op : Operation}
    (hf : f ∈ c.fields) (h : StandsAt f.scope path i op) : StandsAt c (f.name :: path) i op

theorem StandsAt.declares (h : c.StandsAt path i op) : c.Declares path op := by
  induction h with
  | here hop => exact .here (List.mem_of_getElem? hop)
  | under hf h ih => exact .under hf ih

/-- Name and arity tell the operations of a scope apart. -/
theorem Unambiguous.index_unique (hc : c.Unambiguous) (h : c.operations[i]? = some op)
    (h' : c.operations[j]? = some op') (hname : op.name = op'.name) (harity : op.arity = op'.arity) :
    i = j := by
  have hi : i < (c.operations.map fun op => (op.name, op.arity)).length := by
    rw [List.length_map]
    exact (List.getElem?_eq_some_iff.1 h).1
  apply (List.getElem?_inj hi hc.operations_nodup).1
  rw [List.getElem?_map, List.getElem?_map, h, h', Option.map_some, Option.map_some, hname, harity]

theorem StandsAt.index_unique (h : c.StandsAt path i op) (hc : c.Built)
    (h' : c.StandsAt path j op) : i = j := by
  induction h with
  | here hop =>
      cases h' with
      | here hop' => exact hc.unambiguous.index_unique hop hop' rfl rfl
  | @under c f path i op hf h ih =>
      generalize hpath : f.name :: path = whole at h'
      cases h' with
      | here hop' => cases hpath
      | @under _ f' path' _ _ hf' h' =>
          obtain ⟨hname, rfl⟩ := List.cons.inj hpath
          -- The fields of a scope have names of their own.
          obtain rfl : f = f' :=
            List.inj_on_of_nodup_map hc.unambiguous.fields_nodup hf hf' hname
          exact ih (hc.scope hf) h'

theorem standsAt_of_reach (h : c.reach path = some scope) (hop : scope.operations[i]? = some op) :
    c.StandsAt path i op := by
  induction path generalizing c with
  | nil =>
      cases h
      exact .here hop
  | cons segment rest ih =>
      obtain ⟨f, hfield, -, hreach⟩ := reach_cons_iff.1 h
      obtain ⟨hf, rfl⟩ := mem_of_field hfield
      exact .under hf (ih hreach)

theorem not_shadowed_of_reach (hc : c.Built) (h : c.reach path = some scope) :
    ¬ c.Shadowed path := by
  induction path generalizing c with
  | nil => exact nofun
  | cons segment rest ih =>
      obtain ⟨f, hfield, hop, hreach⟩ := reach_cons_iff.1 h
      rw [shadowed_cons_iff]
      rintro (hhas | ⟨f', hf', rfl, hshadowed⟩)
      · exact hop hhas
      · rw [hc.unambiguous.field_of_mem hf'] at hfield
        cases hfield
        exact ih (hc.scope hf') hreach hshadowed

/-! ## Paths to them -/

/-- Every path leads to the operation at one place, under fields that are not shadowed. -/
theorem exists_place (hc : c.Built) (h : c.resolve path = .ok res) :
    ¬ c.Shadowed res.fields ∧ ∃! i, c.StandsAt res.fields i res.operation := by
  obtain ⟨k, scope, hwalks, hfields, hmem, -⟩ := exists_walks_of_resolve h
  have hreach : c.reach res.fields = some scope := by rw [hfields, hwalks.reach]
  obtain ⟨i, hi⟩ := List.mem_iff_getElem?.1 hmem
  have hplace : c.StandsAt res.fields i res.operation := standsAt_of_reach hreach hi
  exact ⟨not_shadowed_of_reach hc hreach, i, hplace, fun j hj => hj.index_unique hc hplace⟩

/-- In a built tree every path that leads to an operation leads to the one at a single place, and
there is such a path for an operation if and only if none of the fields that it stands under has the
name of an operation of the scope in which it is a field.  The fields, the name and as many arguments
as the operation takes are then such a path, of which all but the arguments are consumed. -/
theorem reachable_iff (hc : c.Built) :
    (∀ tokens res, c.resolve tokens = .ok res →
        ¬ c.Shadowed res.fields ∧ ∃! i, c.StandsAt res.fields i res.operation) ∧
      ∀ path i op, c.StandsAt path i op →
        ((∃ tokens consumed, c.resolve tokens = .ok ⟨path, op, consumed⟩) ↔
          ¬ c.Shadowed path) ∧
        (¬ c.Shadowed path → ∀ arguments : List Text, arguments.length = op.arity →
          c.resolve (path ++ op.name :: arguments) = .ok ⟨path, op, path.length + 1⟩) := by
  refine ⟨fun tokens res hres => exists_place hc hres, fun path i op h => ?_⟩
  have hcalled : ¬ c.Shadowed path → ∀ arguments : List Text, arguments.length = op.arity →
      c.resolve (path ++ op.name :: arguments) = .ok ⟨path, op, path.length + 1⟩ := by
    intro hclear arguments harguments
    obtain ⟨scope, hreach, hbuilt, hop⟩ := h.declares.reach hc hclear
    exact resolve_of_reach hreach hbuilt.unambiguous hop harguments
  refine ⟨⟨?_, fun hclear => ?_⟩, hcalled⟩
  · rintro ⟨tokens, consumed, hres⟩
    exact (exists_place hc hres).1
  · exact ⟨_, _, hcalled hclear (List.replicate op.arity []) List.length_replicate⟩

/-- Of the same two sums the second is called under the one field, and there is no path to it under
the shadowed one. -/
theorem reachable_iff_sumTree :
    let clear : List Text := ["calc"]
    let shadowed : List Text := ["math"]
    let arguments : List Text := ["1", "2", "3"]
    sumTree.Built ∧ sumTree.StandsAt clear 1 addThree ∧ sumTree.StandsAt shadowed 1 addThree ∧
      sumTree.resolve (clear ++ addThree.name :: arguments) = .ok ⟨clear, addThree, 2⟩ ∧
      ¬ ∃ tokens consumed, sumTree.resolve tokens = .ok ⟨shadowed, addThree, consumed⟩ := by
  intro clear shadowed arguments
  have hclear : sumTree.StandsAt clear 1 addThree := standsAt_of_reach reach_sumTree rfl
  have hmath : sumTree.StandsAt shadowed 1 addThree :=
    .under (f := .declare {} "math" sums) (List.mem_cons_of_mem _ List.mem_cons_self) (.here rfl)
  have hnot : ¬ sumTree.Shadowed clear := not_shadowed_of_reach built_sumTree reach_sumTree
  have hshadowed : sumTree.Shadowed shadowed := .here (by decide)
  obtain ⟨-, hplaces⟩ := reachable_iff built_sumTree
  obtain ⟨-, hcalled⟩ := hplaces clear 1 addThree hclear
  obtain ⟨hpath, -⟩ := hplaces shadowed 1 addThree hmath
  exact ⟨built_sumTree, hclear, hmath, hcalled hnot arguments (by decide),
    fun h => hpath.1 h hshadowed⟩

end LineDispatch.Controller
