import LineDispatch.Proofs.Operation.Calls
import LineDispatch.Proofs.Reader.Errors

/-!
# Missing arguments

An argument is missing where a parameter asks for one and nothing is bound to it.
A value of another type than that of the parameter would be told in the same way,
but no such value is ever bound (`Reader.forall₂_of_bind`), so that over a signature
it is the first required parameter without a value that is the error
(`Operation.takeAll_eq_error_iff`).

Reading by itself knows no missing arguments: what it fails with is a token or the
value of a flag that does not coerce, or a text (`Reader.covers_not_isMissing`).
There is one other way for such an error to come out of a call: a parser can give it
as its own.  Where no parser makes one up, an operation tells an argument as missing
for its own parameters only.  All of this together is
`slot_typed_and_invoke_missing_iff`.
-/

namespace LineDispatch

/-- Whether the error tells a missing argument. -/
def CommandError.IsMissing : CommandError → Prop
  | .missingArgument _ _ => True
  | _ => False

/-! ## Errors of reading -/

namespace Reader

variable {r : Reader}

theorem exists_parse_of_scalar {kind : ScalarKind} {p q : Nat} {e : CommandError}
    (h : r.scalar kind p = (.error e, q)) : ∃ fault, e = .parse fault := by
  unfold scalar at h
  split at h
  · cases h
  · split at h
    · cases h
    · cases h
      exact ⟨_, rfl⟩

theorem covers_not_isMissing (r : Reader) : r.Covers fun e => ¬ e.IsMissing where
  failed _ := id
  scalar kind := by
    intro p e q h
    obtain ⟨fault, rfl⟩ := exists_parse_of_scalar h
    exact id
  flag type key e h := by
    obtain ⟨fault, rfl⟩ := exists_parse_of_flag h
    exact id

end Reader

/-! ## Taking the arguments out -/

namespace Operation

variable {types : List ArgumentType} {values : List (Option Bound)} {type : ArgumentType}
  {value : Option Bound} {expected : Text} {index j : Nat} {e : CommandError}

/-- Whether the parameter at `j` is required, shown as `expected`, and nothing is bound to it. -/
def Unfilled (types : List ArgumentType) (values : List (Option Bound)) (j : Nat)
    (expected : Text) : Prop :=
  ∃ type, types[j]? = some type ∧ type.IsRequired ∧ values[j]? = some none ∧
    expected = type.slot.name

/-- Whether the parameter at `j` is the first of them. -/
def FirstUnfilled (types : List ArgumentType) (values : List (Option Bound)) (j : Nat)
    (expected : Text) : Prop :=
  Unfilled types values j expected ∧ ∀ i other, i < j → ¬ Unfilled types values i other

theorem unfilled_zero_iff :
    Unfilled (type :: types) (value :: values) 0 expected ↔
      type.IsRequired ∧ value = none ∧ expected = type.slot.name := by
  simp [Unfilled]

theorem firstUnfilled_zero_iff :
    FirstUnfilled (type :: types) (value :: values) 0 expected ↔
      type.IsRequired ∧ value = none ∧ expected = type.slot.name := by
  rw [FirstUnfilled, unfilled_zero_iff]
  exact and_iff_left fun i other hi => absurd hi (Nat.not_lt_zero i)

/-- Behind a parameter that is filled it is the first one of the rest that counts. -/
theorem firstUnfilled_succ_iff :
    FirstUnfilled (type :: types) (value :: values) (j + 1) expected ↔
      ¬ (type.IsRequired ∧ value = none) ∧ FirstUnfilled types values j expected := by
  constructor
  · rintro ⟨hj, hbefore⟩
    refine ⟨fun ⟨hrequired, hnone⟩ => ?_, hj, fun i other hi => ?_⟩
    · exact hbefore 0 _ (Nat.succ_pos j) (unfilled_zero_iff.2 ⟨hrequired, hnone, rfl⟩)
    · exact hbefore (i + 1) other (Nat.succ_lt_succ hi)
  · rintro ⟨hfilled, hj, hbefore⟩
    refine ⟨hj, fun i other hi => ?_⟩
    cases i with
    | zero =>
        intro hzero
        obtain ⟨hrequired, hnone, -⟩ := unfilled_zero_iff.1 hzero
        exact hfilled ⟨hrequired, hnone⟩
    | succ i => exact hbefore i other (Nat.lt_of_succ_lt_succ hi)

/-- A value of the slot of a type is taken out, and so is nothing unless the type is required. -/
theorem exists_take (hfits : ∀ b, value = some b → b.slot = type.slot)
    (hfilled : ¬ (type.IsRequired ∧ value = none)) (index : Nat) :
    ∃ a, type.take value index = .ok a := by
  cases value with
  | some b => exact ⟨type.wrap b, ArgumentType.take_some (hfits b rfl) index⟩
  | none => exact ArgumentType.exists_take_none (fun hrequired => hfilled ⟨hrequired, rfl⟩) index

/-- Where every value is of the slot of its parameter, the first required parameter without a value
is the error. -/
theorem takeAll_eq_error_iff
    (h : List.Forall₂ (fun type value => ∀ b, value = some b → b.slot = ArgumentType.slot type)
      types values) :
    takeAll index types values = .error e ↔
      ∃ j expected, FirstUnfilled types values j expected ∧
        e = .missingArgument (index + j) expected := by
  induction h generalizing index with
  | nil =>
      refine iff_of_false (by simp [takeAll]) ?_
      rintro ⟨j, expected, ⟨⟨type, htype, -⟩, -⟩, -⟩
      cases htype
  | @cons type value types values hfits _ ih =>
      rw [takeAll_cons]
      by_cases hfilled : type.IsRequired ∧ value = none
      · obtain ⟨hrequired, rfl⟩ := hfilled
        rw [ArgumentType.take_none_of_isRequired hrequired]
        constructor
        · intro he
          cases he
          exact ⟨0, _, firstUnfilled_zero_iff.2 ⟨hrequired, rfl, rfl⟩, rfl⟩
        · rintro ⟨j, expected, hj, rfl⟩
          cases j with
          | zero =>
              obtain ⟨-, -, rfl⟩ := firstUnfilled_zero_iff.1 hj
              rfl
          | succ j => exact absurd ⟨hrequired, rfl⟩ (firstUnfilled_succ_iff.1 hj).1
      · obtain ⟨a, ha⟩ := exists_take hfits hfilled index
        have hrest : (type.take value index >>= fun a =>
              takeAll (index + 1) types values >>= fun as => .ok (a :: as)) = .error e ↔
            takeAll (index + 1) types values = .error e := by
          rw [ha]
          cases takeAll (index + 1) types values <;> simp [bind, Except.bind]
        have hshift : ∀ j, index + 1 + j = index + (j + 1) := by omega
        rw [hrest, ih]
        constructor
        · rintro ⟨j, expected, hj, rfl⟩
          exact ⟨j + 1, expected, firstUnfilled_succ_iff.2 ⟨hfilled, hj⟩, by rw [hshift]⟩
        · rintro ⟨j, expected, hj, rfl⟩
          cases j with
          | zero =>
              obtain ⟨hrequired, hnone, -⟩ := firstUnfilled_zero_iff.1 hj
              exact absurd ⟨hrequired, hnone⟩ hfilled
          | succ j =>
              exact ⟨j, expected, (firstUnfilled_succ_iff.1 hj).2, by rw [hshift]⟩

variable {op : Operation} {r : Reader}

theorem forall₂_of_bind_slots {p q : Nat}
    (h : r.bind (types.map ArgumentType.slot) p = (.ok values, q)) :
    List.Forall₂ (fun type value => ∀ b, value = some b → b.slot = ArgumentType.slot type)
      types values :=
  List.forall₂_map_left_iff.1 (Reader.forall₂_of_bind h)

/-- A missing argument is told where a parameter is unfilled, or where reading the parameters has
failed with just this error. -/
theorem invoke_eq_missing_iff :
    op.invoke r = .error (.missingArgument j expected) ↔
      (∃ q, r.bind op.slots 0 = (.error (.missingArgument j expected), q)) ∨
        ∃ values q, r.bind op.slots 0 = (.ok values, q) ∧
          FirstUnfilled op.parameters values j expected := by
  rcases hbind : r.bind op.slots 0 with ⟨raised | values, q⟩
  · rw [invoke_of_bind_error hbind]
    simp
  · rw [invoke_of_bind_ok hbind, bind_eq_error_iff,
      takeAll_eq_error_iff (forall₂_of_bind_slots hbind)]
    constructor
    · rintro (⟨i, other, hi, heq⟩ | ⟨arguments, -, hhandler⟩)
      · cases heq
        rw [Nat.zero_add]
        exact .inr ⟨values, q, rfl, hi⟩
      · obtain ⟨message, -, hfailed⟩ := mapError_eq_error_iff.1 hhandler
        cases hfailed
    · rintro (⟨q', heq⟩ | ⟨values', q', heq, hj⟩)
      · cases heq
      · cases heq
        exact .inl ⟨j, expected, hj, by rw [Nat.zero_add]⟩

end Operation

/-! ## Reading, binding and calling -/

open Operation in
/-- Whatever parsers are registered, what is read for a type comes back at the type, a value of a
custom type being made by the first parser registered for it.  So a read that asks for a type gives
what was read, and fails only where reading fails; the value of a flag that does not coerce is the
only error of reading a flag; and what is bound to parameters is taken out at their types.  An
operation tells an argument as missing for the first required parameter that nothing is bound to,
and where reading its parameters fails with that very error, which takes a parser that makes it
up. -/
theorem slot_typed_and_invoke_missing_iff (registrations : List (Text × TypeParser)) (c : Context) :
    let r : Reader := ⟨c, .registered registrations⟩
    (∀ (type : ArgumentType) (p q : Nat) (b : Bound), r.slot type.slot p = (.ok (some b), q) →
        b.slot = type.slot ∧ ∀ i, type.take (some b) i = .ok (type.wrap b)) ∧
      (∀ (type : Text) (p q : Nat) (b : Bound), r.slot (.custom type) p = (.ok (some b), q) →
        ∃ plan parts depth, registrations.lookup type = some plan ∧
          r.followWith (r.customWithin depth) plan p = (.ok parts, q) ∧ b = .custom type parts) ∧
      (∀ (type : ArgumentType) (p : Nat),
        r.argument type p =
          ((r.slot type.slot p).1.map (Option.map type.wrap), (r.slot type.slot p).2)) ∧
      (∀ (type : ArgumentType) (key : Text) (e : CommandError),
        r.flag type key = .error e → ∃ fault, e = .parse fault) ∧
      (∀ (types : List ArgumentType) (p q : Nat) (values : List (Option Bound)),
        r.bind (types.map ArgumentType.slot) p = (.ok values, q) →
          List.Forall₂ (fun type value => ∀ b, value = some b →
            ∀ i, ArgumentType.take type (some b) i = .ok (type.wrap b)) types values) ∧
      (∀ (op : Operation) (j : Nat) (expected : Text),
        op.invoke r = .error (.missingArgument j expected) ↔
          (∃ q, r.bind op.slots 0 = (.error (.missingArgument j expected), q)) ∨
            ∃ values q, r.bind op.slots 0 = (.ok values, q) ∧
              FirstUnfilled op.parameters values j expected) ∧
      ((∀ type plan, registrations.lookup type = some plan →
          plan.PassesOnly fun e => ¬ e.IsMissing) →
        ∀ slots p q e, r.bind slots p = (.error e, q) → ¬ e.IsMissing) := by
  intro r
  refine ⟨fun type p q b h => ?_, fun type p q b h => ?_, fun type p => ?_,
    fun type key e h => Reader.exists_parse_of_flag h, fun types p q values h => ?_,
    fun op j expected => invoke_eq_missing_iff, fun hparsers slots p q e h => ?_⟩
  · have hslot : b.slot = type.slot := Reader.slot_of_slot h
    exact ⟨hslot, ArgumentType.take_some hslot⟩
  · obtain ⟨depth, plan, parts, hplan, hparts, hb⟩ := Reader.exists_of_customWithin h
    rw [TypeParsers.get?_registered] at hplan
    exact ⟨plan, parts, depth, hplan, hparts, hb⟩
  · exact Reader.argumentWith_eq (Reader.faithful_customWithin r r.depth) type p
  · refine (forall₂_of_bind_slots h).imp fun type value hfits b hb => ?_
    exact ArgumentType.take_some (hfits b hb)
  · have hpass : ∀ type plan, r.parsers.get? type = some plan →
        plan.PassesOnly fun e => ¬ e.IsMissing := by
      intro type plan hplan
      rw [TypeParsers.get?_registered] at hplan
      exact hparsers type plan hplan
    exact Reader.throws_bind (Reader.covers_not_isMissing r) hpass slots p e q h

/-- A point under two options, read by the first of two parsers, in front of a parameter that
nothing is left for. -/
theorem slot_typed_and_invoke_missing_iff_point :
    let coordinate : ReadStep := .read (.scalar (.integer .i32))
    let registrations : List (Text × TypeParser) :=
      [("geo::Point", ReadStep.parser [coordinate, coordinate]),
        ("geo::Point", ReadStep.parser [.fail "taken"])]
    let c : Context := { parameters := ["3", "4", "x"], flags := Table.insert {} "n" (some "x") }
    let r : Reader := ⟨c, .registered registrations⟩
    let type : ArgumentType := .optional (.optional (.custom "geo::Point"))
    let b : Bound := .custom "geo::Point" [.text "3", .text "4"]
    let types : List ArgumentType := [type, .flags, .scalar .char, .scalar (.integer .u8)]
    let op : Operation := .declare {} "move" types fun _ => .ok "moved"
    r.slot type.slot 0 = (.ok (some b), 2) ∧
      type.take (some b) 0 = .ok (.present (.present (.value b))) ∧
      registrations.lookup "geo::Point".toList = some (ReadStep.parser [coordinate, coordinate]) ∧
      r.argument type 0 = (.ok (some (.present (.present (.value b)))), 2) ∧
      (∃ fault, r.flag (.scalar (.integer .i32)) "n" = .error (.parse fault)) ∧
      op.invoke r = .error (.missingArgument 3 "u8") ∧
      ∃ e, r.bind [.scalar (.integer .i32)] 2 = (.error e, 3) ∧ ¬ e.IsMissing := by
  intro coordinate registrations c r type b types op
  obtain ⟨hread, -, hargument, hflag, -, hinvoke, hmissing⟩ :=
    slot_typed_and_invoke_missing_iff registrations c
  have hslot : r.slot type.slot 0 = (.ok (some b), 2) := by decide +kernel
  have hlookup : registrations.lookup "geo::Point".toList =
      some (ReadStep.parser [coordinate, coordinate]) := rfl
  have hparsers : ∀ name plan, registrations.lookup name = some plan →
      plan.PassesOnly fun e => ¬ e.IsMissing := by
    intro name plan hplan
    obtain ⟨front, back, hsplit, -⟩ := List.lookup_eq_some_iff.1 hplan
    have hmem : (name, plan) ∈ registrations := by simp [hsplit]
    obtain ⟨-, rfl⟩ | ⟨-, rfl⟩ :
        (name = "geo::Point".toList ∧ plan = ReadStep.parser [coordinate, coordinate]) ∨
          name = "geo::Point".toList ∧ plan = ReadStep.parser [.fail "taken"] := by
      simpa [registrations] using hmem
    · exact ReadStep.passesOnly_script _
    · exact ReadStep.passesOnly_script _
  have hbind : r.bind op.slots 0 =
      (.ok [some b, some (.flags c.flags), some (.scalar (.char 'x')), none], 3) := by
    decide +kernel
  have hunfilled : Operation.FirstUnfilled types
      [some b, some (.flags c.flags), some (.scalar (.char 'x')), none] 3 "u8" := by
    simp [types, type, Operation.firstUnfilled_succ_iff, Operation.firstUnfilled_zero_iff,
      ArgumentType.IsRequired]
    rfl
  refine ⟨hslot, (hread type 0 2 b hslot).2 0, hlookup, ?_, ?_, ?_, ?_⟩
  · rw [hargument type 0, hslot]
    rfl
  · obtain ⟨e, he⟩ : ∃ e, r.flag (.scalar (.integer .i32)) "n" = .error e := ⟨_, rfl⟩
    obtain ⟨fault, rfl⟩ := hflag _ _ e he
    exact ⟨fault, he⟩
  · exact (hinvoke op 3 "u8").2 (.inr ⟨_, 3, hbind, hunfilled⟩)
  · obtain ⟨e, he⟩ : ∃ e, r.bind [.scalar (.integer .i32)] 2 = (.error e, 3) := ⟨_, rfl⟩
    exact ⟨e, he, hmissing hparsers _ 2 3 e he⟩

end LineDispatch
