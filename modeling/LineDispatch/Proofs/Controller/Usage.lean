import LineDispatch.Proofs.Controller.Build

/-!
# Usage lines and the calls they show

The usage of a scope has a line for every operation in the scopes below it, with
the fields that lead there in front (`Controller.mem_usageLines_iff`).  Called
with these fields, its name and as many arguments as it takes, the operation is
the one that is found, unless one of the fields has the name of an operation of
the scope in which it is a field (`Controller.Shadowed`): there the walk stops,
and whatever follows, the call is that of an operation further up
(`Controller.resolve_usage_iff`).  So a built scope can show usage lines that
cannot be called.

An operation whose fields are not shadowed stands in the scope that the fields
lead to (`Declares.reach`), and in a built scope its name and its number of
arguments are its own (`resolve_of_reach`).
-/

namespace LineDispatch

namespace Controller

/-! ## The operations of a tree -/

/-- Whether an operation is declared in the scope under the fields of a path. -/
inductive Declares : Controller → List Text → Operation → Prop
  | here {c : Controller} {op : Operation} (hop : op ∈ c.operations) : Declares c [] op
  | under {c : Controller} {f : Field} {path : List Text} {op : Operation} (hf : f ∈ c.fields)
    (h : Declares f.scope path op) : Declares c (f.name :: path) op

/-- Whether one of the fields of a path has the name of an operation of the scope in which it is a
field. -/
inductive Shadowed : Controller → List Text → Prop
  | here {c : Controller} {name : Text} {path : List Text} (h : c.HasOperation name) :
    Shadowed c (name :: path)
  | under {c : Controller} {f : Field} {path : List Text} (hf : f ∈ c.fields)
    (h : Shadowed f.scope path) : Shadowed c (f.name :: path)

theorem shadowed_cons_iff {c : Controller} {name : Text} {path : List Text} :
    c.Shadowed (name :: path) ↔
      c.HasOperation name ∨ ∃ f ∈ c.fields, f.name = name ∧ f.scope.Shadowed path := by
  constructor
  · intro h
    cases h with
    | here hhas => exact .inl hhas
    | under hf h => exact .inr ⟨_, hf, rfl, h⟩
  · rintro (hhas | ⟨f, hf, rfl, h⟩)
    · exact .here hhas
    · exact .under hf h

/-- The usage line of an operation under the fields of a path. -/
def usageLine (path : List Text) (op : Operation) : Text :=
  let mark : Text := if op.isDefault then " (default)".toList else "".toList
  path.flatMap (· ++ [' ']) ++ op.signature ++ mark

theorem append_usageLine_nil (shown : Text) (op : Operation) :
    shown ++ usageLine [] op =
      shown ++ op.signature ++ if op.isDefault then " (default)".toList else "".toList := by
  rw [usageLine, List.flatMap_nil, List.nil_append, List.append_assoc]

theorem append_usageLine_cons (shown name : Text) (path : List Text) (op : Operation) :
    shown ++ usageLine (name :: path) op = shown ++ name ++ [' '] ++ usageLine path op := by
  simp only [usageLine, List.flatMap_cons, List.append_assoc]

mutual

theorem mem_usageUnder_iff (shown line : Text) : (c : Controller) →
    (line ∈ usageUnder shown c ↔ ∃ path op, c.Declares path op ∧ line = shown ++ usageLine path op)
  | ⟨typeName, operations, fields⟩ => by
      rw [usageUnder, List.mem_append, List.mem_map, mem_usageOfFields_iff shown line fields]
      constructor
      · rintro (⟨op, hop, rfl⟩ | ⟨f, hf, path, op, h, rfl⟩)
        · exact ⟨[], op, .here hop, (append_usageLine_nil shown op).symm⟩
        · exact ⟨f.name :: path, op, .under hf h, rfl⟩
      · rintro ⟨path, op, h, rfl⟩
        cases h with
        | here hop => exact .inl ⟨op, hop, (append_usageLine_nil shown op).symm⟩
        | under hf h => exact .inr ⟨_, hf, _, op, h, rfl⟩

theorem mem_usageOfFields_iff (shown line : Text) : (fields : List Field) →
    (line ∈ usageOfFields shown fields ↔ ∃ f ∈ fields, ∃ path op, f.scope.Declares path op ∧
      line = shown ++ usageLine (f.name :: path) op)
  | [] => by simp [usageOfFields]
  | ⟨name, declaredName, scope⟩ :: rest => by
      rw [usageOfFields, List.mem_append, mem_usageUnder_iff (shown ++ name ++ [' ']) line scope,
        mem_usageOfFields_iff shown line rest, List.exists_mem_cons_iff]
      simp only [append_usageLine_cons]

end

/-- The usage lines are those of the operations in the tree. -/
theorem mem_usageLines_iff {c : Controller} {line : Text} :
    line ∈ c.usageLines ↔ ∃ path op, c.Declares path op ∧ line = usageLine path op :=
  mem_usageUnder_iff [] line c

/-! ## Calls -/

variable {c scope : Controller} {path : List Text} {op : Operation}

/-- Where no field is shadowed the path leads to the scope of the operation. -/
theorem Declares.reach (h : c.Declares path op) (hc : c.Built) (hclear : ¬ c.Shadowed path) :
    ∃ scope, c.reach path = some scope ∧ scope.Built ∧ op ∈ scope.operations := by
  induction h with
  | @here c op hop => exact ⟨c, rfl, hc, hop⟩
  | @under c f path op hf h ih =>
      obtain ⟨scope, hreach, hbuilt, hop⟩ := ih (hc.scope hf) fun hs => hclear (.under hf hs)
      refine ⟨scope, reach_cons_iff.2 ⟨f, hc.unambiguous.field_of_mem hf, ?_, hreach⟩, hbuilt, hop⟩
      exact fun hhas => hclear (.here hhas)

/-- An operation of the scope that a path leads to is called by the path, its name and its
arguments. -/
theorem resolve_of_reach (hreach : c.reach path = some scope) (hscope : scope.Unambiguous)
    (hop : op ∈ scope.operations) {arguments : List Text} (harguments : arguments.length = op.arity) :
    c.resolve (path ++ op.name :: arguments) = .ok ⟨path, op, path.length + 1⟩ := by
  have hstop : scope.Stops op.name := .inl ⟨op, hop, rfl⟩
  rw [resolve_append hreach, resolve_of_stop hstop, harguments, hscope.selectOperation_of_mem hop]
  simp [Except.map, Resolution.behind]

/-- Where a field is shadowed a call ends with a word of the path, whatever follows. -/
theorem Shadowed.resolve (h : c.Shadowed path) (hc : c.Built) (rest : List Text) :
    ∃ r, c.resolve (path ++ rest) = .ok r ∧ r.consumed ≤ path.length := by
  induction h with
  | @here c name path hhas =>
      obtain ⟨op, hop⟩ := resolve_of_hasOperation hhas (path ++ rest)
      exact ⟨⟨[], op, 1⟩, hop, Nat.le_add_left 1 _⟩
  | @under c f path hf h ih =>
      by_cases hhas : c.HasOperation f.name
      -- Shadowed already by an operation beside the first field.
      · obtain ⟨op, hop⟩ := resolve_of_hasOperation hhas (path ++ rest)
        exact ⟨⟨[], op, 1⟩, hop, Nat.le_add_left 1 _⟩
      · obtain ⟨r, hr, hle⟩ := ih (hc.scope hf)
        have hreach : c.reach [f.name] = some f.scope :=
          reach_cons_iff.2 ⟨f, hc.unambiguous.field_of_mem hf, hhas, rfl⟩
        refine ⟨r.behind [f.name], ?_, ?_⟩
        · rw [List.cons_append, ← List.singleton_append, resolve_append hreach, hr]
          rfl
        · show 1 + r.consumed ≤ path.length + 1
          omega

/-- Every usage line of a built scope is that of an operation under some fields.  The operation is
called by these fields, its name and as many arguments as it takes if and only if none of the fields
is shadowed; otherwise every such call ends in a scope further up. -/
theorem resolve_usage_iff (hc : c.Built) :
    (∀ line, line ∈ c.usageLines ↔ ∃ path op, c.Declares path op ∧ line = usageLine path op) ∧
      ∀ path op, c.Declares path op →
        ((∀ arguments : List Text, arguments.length = op.arity →
            c.resolve (path ++ op.name :: arguments) = .ok ⟨path, op, path.length + 1⟩) ↔
          ¬ c.Shadowed path) ∧
        (c.Shadowed path → ∀ arguments,
          ∃ r, c.resolve (path ++ op.name :: arguments) = .ok r ∧ r.consumed ≤ path.length) := by
  refine ⟨fun line => mem_usageLines_iff, fun path op h => ⟨⟨fun hcalled hs => ?_, ?_⟩, ?_⟩⟩
  · obtain ⟨r, hr, hle⟩ := hs.resolve hc (op.name :: List.replicate op.arity [])
    rw [hcalled _ (List.length_replicate ..)] at hr
    cases hr
    exact Nat.not_succ_le_self _ hle
  · intro hclear arguments harguments
    obtain ⟨scope, hreach, hbuilt, hop⟩ := h.reach hc hclear
    exact resolve_of_reach hreach hbuilt.unambiguous hop harguments
  · exact fun hs arguments => hs.resolve hc _

theorem built_sumTree : sumTree.Built := by
  have hsums : sums.Built :=
    .build (by simp) (build_eq_ok_iff.2 ⟨rfl, by decide, by decide, by decide⟩)
  refine .build (fun f hf => ?_) (build_eq_ok_iff.2 ⟨rfl, by decide, by decide, by decide⟩)
  rcases List.mem_pair.1 hf with rfl | rfl
  · exact hsums
  · exact hsums

/-- The sum of three is called under the one field, and under the shadowed one it is not. -/
theorem resolve_usage_iff_sumTree :
    let clear : List Text := ["calc"]
    let shadowed : List Text := ["math"]
    let arguments : List Text := ["1", "2", "3"]
    sumTree.Built ∧ sumTree.Declares clear addThree ∧ sumTree.Declares shadowed addThree ∧
      arguments.length = addThree.arity ∧ ¬ sumTree.Shadowed clear ∧ sumTree.Shadowed shadowed ∧
      sumTree.resolve (clear ++ addThree.name :: arguments) = .ok ⟨clear, addThree, 2⟩ ∧
      ∃ r, sumTree.resolve (shadowed ++ addThree.name :: arguments) = .ok r ∧ r.consumed ≤ 1 := by
  intro clear shadowed arguments
  have hadd : sums.Declares [] addThree := .here (by simp [sums])
  have hclear : sumTree.Declares clear addThree :=
    .under (f := .declare {} "calc" sums) List.mem_cons_self hadd
  have hmath : sumTree.Declares shadowed addThree :=
    .under (f := .declare {} "math" sums) (List.mem_cons_of_mem _ List.mem_cons_self) hadd
  have harity : arguments.length = addThree.arity := by decide
  have hshadowed : sumTree.Shadowed shadowed := .here (by decide)
  have hnot : ¬ sumTree.Shadowed clear := by
    rw [shadowed_cons_iff]
    rintro (hhas | ⟨f, -, -, h⟩)
    · exact absurd hhas (by decide)
    · cases h
  obtain ⟨-, hcalls⟩ := resolve_usage_iff built_sumTree
  exact ⟨built_sumTree, hclear, hmath, harity, hnot, hshadowed,
    (hcalls clear addThree hclear).1.2 hnot arguments harity,
    (hcalls shadowed addThree hmath).2 hshadowed arguments⟩

/-- A usage line of a built scope is shown for an operation, and the call that it shows is that of
another one, which takes the first word of it alone. -/
theorem resolve_shadowed_sumTree :
    sumTree.Built ∧ "math add <i64> <i64>".toList ∈ sumTree.usageLines ∧
      usageLine ["math".toList] addTwo = "math add <i64> <i64>".toList ∧
      (sumTree.resolve ["math", "add", "1", "2"]).map (fun r => (r.operation.name, r.consumed)) =
        .ok ("math", 1) := by
  refine ⟨built_sumTree, ?_⟩
  decide +kernel

end Controller

end LineDispatch
