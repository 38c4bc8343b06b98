import LineDispatch.Proofs.Controller.Build

/-!
# Tables that are refused

`Controller.build` makes a scope of its members as they are if the scope is
unambiguous, and refuses them otherwise (`Controller.build_outcome`).  What it
tells then is the first thing that is wrong, by what it looks at in turn
(`Controller.Refused`): two default operations, of which it names the first two;
the first operation that has name and arity of one before it; the first field
that has the name of one before it.

A tree is built scope by scope, so that all scopes in it are unambiguous
(`Controller.Holds`).  Nothing else is asked of a tree: one in which all scopes
are unambiguous can be built (`Controller.built_iff`).
-/

namespace LineDispatch

/-- The first element that is equal to one before it, or to one of those already seen, has only
elements in front of it of which that does not hold. -/
theorem firstRepeat_eq_some_iff {α : Type} [DecidableEq α] {seen l : List α} {a : α} :
    firstRepeat seen l = some a ↔
      ∃ front back, l = front ++ a :: back ∧ front.Nodup ∧ (∀ b ∈ front, b ∉ seen) ∧
        (a ∈ seen ∨ a ∈ front) := by
  induction l generalizing seen with
  | nil => simp [firstRepeat]
  | cons b rest ih =>
      rw [firstRepeat]
      split
      · rename_i hseen
        constructor
        · rintro ⟨⟩
          exact ⟨[], rest, rfl, List.nodup_nil, by simp, .inl hseen⟩
        · rintro ⟨front, back, hl, -, hnew, -⟩
          cases front with
          | nil => rw [(List.cons.inj hl).1]
          | cons b' front =>
              -- The element in front would be one already seen.
              obtain ⟨rfl, -⟩ := List.cons.inj hl
              exact absurd hseen (hnew b List.mem_cons_self)
      · rename_i hseen
        rw [ih]
        constructor
        · rintro ⟨front, back, rfl, hfront, hnew, ha⟩
          have hb : b ∉ front := fun hmem => hnew b hmem List.mem_cons_self
          refine ⟨b :: front, back, rfl, List.nodup_cons.2 ⟨hb, hfront⟩, ?_, ?_⟩
          · refine List.forall_mem_cons.2 ⟨hseen, fun x hx hxseen => ?_⟩
            exact hnew x hx (List.mem_cons_of_mem _ hxseen)
          · simp only [List.mem_cons] at ha ⊢
            tauto
        · rintro ⟨front, back, hl, hfront, hnew, ha⟩
          cases front with
          | nil =>
              obtain ⟨rfl, -⟩ := List.cons.inj hl
              simp [hseen] at ha
          | cons b' front =>
              obtain ⟨rfl, hrest⟩ := List.cons.inj hl
              obtain ⟨hb, hnodup⟩ := List.nodup_cons.1 hfront
              refine ⟨front, back, hrest, hnodup, fun x hx hxseen => ?_, ?_⟩
              · rcases List.mem_cons.1 hxseen with rfl | hxseen
                · exact hb hx
                · exact hnew x (List.mem_cons_of_mem _ hx) hxseen
              · simp only [List.mem_cons] at ha ⊢
                tauto

/-- The first element whose key is that of one before it. -/
theorem firstRepeat_map_eq_some_iff {α β : Type} [DecidableEq α] {key : β → α} {l : List β}
    {k : α} :
    firstRepeat [] (l.map key) = some k ↔
      ∃ front b back earlier, l = front ++ b :: back ∧ key b = k ∧ (front.map key).Nodup ∧
        earlier ∈ front ∧ key earlier = k := by
  rw [firstRepeat_eq_some_iff]
  constructor
  · rintro ⟨front, back, hmap, hfront, -, hmem⟩
    obtain ⟨front, tail, rfl, rfl, htail⟩ := List.map_eq_append_iff.1 hmap
    obtain ⟨b, back, rfl, hb, -⟩ := List.map_eq_cons_iff.1 htail
    obtain ⟨earlier, hearlier, hkey⟩ := List.mem_map.1 (hmem.resolve_left List.not_mem_nil)
    exact ⟨front, b, back, earlier, rfl, hb, hfront, hearlier, hkey⟩
  · rintro ⟨front, b, back, earlier, rfl, rfl, hfront, hearlier, hkey⟩
    refine ⟨front.map key, back.map key, ?_, hfront, ?_, .inr ?_⟩
    · rw [List.map_append, List.map_cons]
    · simp
    · exact List.mem_map.2 ⟨earlier, hearlier, hkey⟩

namespace Controller

variable {typeName : Text} {operations : List Operation} {fields : List Field} {c : Controller}

/-! ## Why a table is refused -/

/-- The errors that a table is refused with, each where those before it do not apply. -/
inductive Refused (typeName : Text) (operations : List Operation) (fields : List Field) :
    DefinitionError → Prop
  | multipleDefaults {front between back : List Operation} {first second : Operation}
    (hoperations : operations = front ++ first :: (between ++ second :: back))
    (hfirst : first.isDefault = true) (hsecond : second.isDefault = true)
    (hfront : ∀ op ∈ front, op.isDefault = false)
    (hbetween : ∀ op ∈ between, op.isDefault = false) :
    Refused typeName operations fields (.multipleDefaults typeName first.name second.name)
  | duplicateOperation {front back : List Operation} {earlier op : Operation}
    (hdefaults : (operations.filter (·.isDefault)).length ≤ 1)
    (hoperations : operations = front ++ op :: back)
    (hfront : (front.map fun op => (op.name, op.arity)).Nodup)
    (hearlier : earlier ∈ front) (hname : earlier.name = op.name)
    (harity : earlier.arity = op.arity) :
    Refused typeName operations fields (.duplicateOperation typeName op.name op.arity)
  | duplicateField {front back : List Field} {earlier f : Field}
    (hdefaults : (operations.filter (·.isDefault)).length ≤ 1)
    (hoperations : (operations.map fun op => (op.name, op.arity)).Nodup)
    (hfields : fields = front ++ f :: back) (hfront : (front.map (·.name)).Nodup)
    (hearlier : earlier ∈ front) (hname : earlier.name = f.name) :
    Refused typeName operations fields (.duplicateField typeName f.name)

theorem build_of_two_defaults {first second : Operation} {rest : List Operation}
    (h : operations.filter (·.isDefault) = first :: second :: rest) :
    build typeName operations fields =
      .error (.multipleDefaults typeName first.name second.name) := by
  rw [build, h]

/-- With one default operation at most the names decide. -/
theorem build_of_one_default (h : (operations.filter (·.isDefault)).length ≤ 1) :
    build typeName operations fields =
      match firstRepeat [] (operations.map fun op => (op.name, op.arity)) with
      | some (name, arity) => .error (.duplicateOperation typeName name arity)
      | none =>
        match firstRepeat [] (fields.map (·.name)) with
        | some name => .error (.duplicateField typeName name)
        | none => .ok ⟨typeName, operations, fields⟩ := by
  unfold build
  split
  · rename_i first second rest hdefaults
    simp [hdefaults] at h
  · rfl

/-- Two default operations or more: these are the first two. -/
theorem exists_first_defaults (h : ¬ (operations.filter (·.isDefault)).length ≤ 1) :
    ∃ front first between second back,
      operations = front ++ first :: (between ++ second :: back) ∧ first.isDefault = true ∧
        second.isDefault = true ∧ (∀ op ∈ front, op.isDefault = false) ∧
        ∀ op ∈ between, op.isDefault = false := by
  rcases hdefaults : operations.filter (·.isDefault) with _ | ⟨first, _ | ⟨second, rest⟩⟩
  · simp [hdefaults] at h
  · simp [hdefaults] at h
  · obtain ⟨front, tail, rfl, hfront, hfirst, htail⟩ := List.filter_eq_cons_iff.1 hdefaults
    obtain ⟨between, back, rfl, hbetween, hsecond, -⟩ := List.filter_eq_cons_iff.1 htail
    refine ⟨front, first, between, second, back, rfl, hfirst, hsecond, ?_, ?_⟩
    · simpa using hfront
    · simpa using hbetween

/-- A table that breaks one of the rules is refused for a reason. -/
theorem exists_refused (h : ¬ (⟨typeName, operations, fields⟩ : Controller).Unambiguous) :
    ∃ e, Refused typeName operations fields e := by
  by_cases hdefaults : (operations.filter (·.isDefault)).length ≤ 1
  · cases hop : firstRepeat [] (operations.map fun op => (op.name, op.arity)) with
    | some key =>
        obtain ⟨front, op, back, earlier, hl, hkey, hfront, hearlier, hsame⟩ :=
          firstRepeat_map_eq_some_iff.1 hop
        obtain ⟨hname, harity⟩ := Prod.mk.inj (hsame.trans hkey.symm)
        exact ⟨_, .duplicateOperation hdefaults hl hfront hearlier hname harity⟩
    | none =>
        have hoperations := (firstRepeat_eq_none_iff.1 hop).1
        cases hfield : firstRepeat [] (fields.map (·.name)) with
        | some name =>
            obtain ⟨front, f, back, earlier, hl, hkey, hfront, hearlier, hsame⟩ :=
              firstRepeat_map_eq_some_iff.1 hfield
            exact ⟨_, .duplicateField hdefaults hoperations hl hfront hearlier
              (hsame.trans hkey.symm)⟩
        | none => exact absurd ⟨hdefaults, hoperations, (firstRepeat_eq_none_iff.1 hfield).1⟩ h
  · obtain ⟨front, first, between, second, back, hoperations, hfirst, hsecond, hfront, hbetween⟩ :=
      exists_first_defaults hdefaults
    exact ⟨_, .multipleDefaults hoperations hfirst hsecond hfront hbetween⟩

theorem Refused.build_eq {e : DefinitionError} (h : Refused typeName operations fields e) :
    build typeName operations fields = .error e := by
  cases h with
  | @multipleDefaults front between back first second hoperations hfirst hsecond hfront hbetween =>
      have hnone : ∀ l : List Operation, (∀ op ∈ l, op.isDefault = false) →
          l.filter (·.isDefault) = [] := by
        intro l hl
        simpa using hl
      have hdefaults : operations.filter (·.isDefault) =
          first :: second :: back.filter (·.isDefault) := by
        rw [hoperations, List.filter_append, hnone front hfront, List.nil_append,
          List.filter_cons_of_pos hfirst, List.filter_append, hnone between hbetween,
          List.nil_append, List.filter_cons_of_pos hsecond]
      exact build_of_two_defaults hdefaults
  | @duplicateOperation front back earlier op hdefaults hoperations hfront hearlier hname harity =>
      have hrepeat : firstRepeat [] (operations.map fun op => (op.name, op.arity)) =
          some (op.name, op.arity) :=
        firstRepeat_map_eq_some_iff.2 ⟨front, op, back, earlier, hoperations, rfl, hfront,
          hearlier, by rw [hname, harity]⟩
      rw [build_of_one_default hdefaults, hrepeat]
  | @duplicateField front back earlier f hdefaults hoperations hfields hfront hearlier hname =>
      have hrepeat : firstRepeat [] (fields.map (·.name)) = some f.name :=
        firstRepeat_map_eq_some_iff.2 ⟨front, f, back, earlier, hfields, rfl, hfront, hearlier,
          hname⟩
      have hnone : firstRepeat [] (operations.map fun op => (op.name, op.arity)) = none :=
        firstRepeat_eq_none_iff.2 ⟨hoperations, by simp⟩
      rw [build_of_one_default hdefaults, hnone, hrepeat]

theorem build_eq_error_iff {e : DefinitionError} :
    build typeName operations fields = .error e ↔ Refused typeName operations fields e := by
  constructor
  · intro he
    have hnot : ¬ (⟨typeName, operations, fields⟩ : Controller).Unambiguous := by
      intro hc
      rw [build_eq_ok_iff.2 ⟨rfl, hc⟩] at he
      cases he
    -- There is a reason for the refusal, and the error of a table is one only.
    obtain ⟨e', he'⟩ := exists_refused hnot
    have heq := he'.build_eq
    rw [he] at heq
    cases heq
    exact he'
  · exact Refused.build_eq

/-! ## Trees -/

/-- Whether a scope is the tree itself or lies in it, under any number of fields. -/
inductive Holds : Controller → Controller → Prop
  | self {c : Controller} : Holds c c
  | under {c scope : Controller} {f : Field} (hf : f ∈ c.fields) (h : Holds f.scope scope) :
    Holds c scope

theorem Built.unambiguous_of_holds {scope : Controller} (hc : c.Built) (h : c.Holds scope) :
    scope.Unambiguous := by
  induction h with
  | self => exact hc.unambiguous
  | under hf h ih => exact ih (hc.scope hf)

mutual

theorem built_of_unambiguous : (c : Controller) →
    (∀ scope, c.Holds scope → scope.Unambiguous) → c.Built
  | ⟨_, _, fields⟩, h =>
      have hfields : ∀ f ∈ fields, ∀ scope, f.scope.Holds scope → scope.Unambiguous :=
        fun _ hf scope hscope => h scope (.under hf hscope)
      .build (built_of_unambiguous_fields fields hfields) (build_eq_ok_iff.2 ⟨rfl, h _ .self⟩)

theorem built_of_unambiguous_fields : (fields : List Field) →
    (∀ f ∈ fields, ∀ scope, f.scope.Holds scope → scope.Unambiguous) →
      ∀ f ∈ fields, f.scope.Built
  | [], _ => nofun
  | ⟨_, _, scope⟩ :: rest, h =>
      have hfirst : scope.Built := built_of_unambiguous scope (h _ List.mem_cons_self)
      have hrest : ∀ f ∈ rest, f.scope.Built :=
        built_of_unambiguous_fields rest fun f hf => h f (List.mem_cons_of_mem _ hf)
      List.forall_mem_cons.2 ⟨hfirst, hrest⟩

end

/-- What building asks of a tree is asked of each of its scopes by itself. -/
theorem built_iff : c.Built ↔ ∀ scope, c.Holds scope → scope.Unambiguous :=
  ⟨fun hc _ h => hc.unambiguous_of_holds h, built_of_unambiguous c⟩

/-- A table is made into a scope of its members as they are if and only if no name in it could mean
two things; otherwise the error is the first of two default operations, a second operation of one
name and arity, and a second field of one name.  A tree can be built if and only if each scope in it
is such a table. -/
theorem build_outcome (typeName : Text) (operations : List Operation) (fields : List Field) :
    (∀ c, build typeName operations fields = .ok c ↔
        c = ⟨typeName, operations, fields⟩ ∧ c.Unambiguous) ∧
      (∀ e, build typeName operations fields = .error e ↔ Refused typeName operations fields e) ∧
      ∀ tree : Controller, tree.Built ↔ ∀ scope, tree.Holds scope → scope.Unambiguous :=
  ⟨fun _ => build_eq_ok_iff, fun _ => build_eq_error_iff, fun _ => built_iff⟩

/-- Of three things that are wrong the default operations come first. -/
example :
    build "Broken" [.declare { isDefault := true } "a" [] fun _ => .ok [],
      .declare { name := "a", isDefault := true } "b" [.flags] fun _ => .ok []]
      [.declare {} "math" sums, .declare { name := "math" } "other" sums] =
        .error (.multipleDefaults "Broken" "a" "a") :=
  rfl

end Controller

end LineDispatch
