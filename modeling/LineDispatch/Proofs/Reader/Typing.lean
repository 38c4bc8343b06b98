import Mathlib.Data.List.Forall2
import LineDispatch.Operation
import LineDispatch.Proofs.Reader.Binding
import LineDispatch.Proofs.Results

/-!
# Values come back at their own type

What is bound to a parameter has lost its type.  It is read for a slot, which
does not know of options, and it is taken out at the type of the parameter, where
a value of another slot would be told as missing.

This never happens: whatever is read for a slot is of that slot
(`Reader.slot_of_slotWith`), since a token is read at the kind it is asked for and
a parser makes values of the type that it is registered for.  Hence every value is
taken out, present under each option of its type (`ArgumentType.take_some`), and
a read that asks for a type gives just what was read, wrapped at that type
(`Reader.argumentWith_eq`).

So it is only where nothing is bound that an argument is missing, and only where
the type asks for one (`ArgumentType.IsRequired`).
-/

namespace LineDispatch

/-! ## Registered parsers -/

namespace TypeParsers

/-- The parsers that are registered one after the other; the first one of a type stays. -/
def registered (registrations : List (Text × TypeParser)) : TypeParsers :=
  registrations.foldl (fun parsers p => (parsers.insertNew p.1 p.2).2) {}

theorem get?_registered (registrations : List (Text × TypeParser)) (type : Text) :
    (registered registrations).get? type = registrations.lookup type := by
  have hfold : ∀ parsers : TypeParsers,
      (registrations.foldl (fun parsers p => (parsers.insertNew p.1 p.2).2) parsers).get? type =
        (parsers.get? type).or (registrations.lookup type) := by
    induction registrations with
    | nil => simp
    | cons p rest ih =>
        obtain ⟨name, plan⟩ := p
        intro parsers
        rw [List.foldl_cons, ih, Table.get?_insertNew, Option.or_assoc, List.lookup_cons]
        by_cases h : type = name
        · simp [h]
        · have hbeq : (type == name) = false := beq_eq_false_iff_ne.2 h
          simp [h, hbeq]
  rw [registered, hfold, Table.get?_empty, Option.none_or]

end TypeParsers

/-! ## Taking a value out -/

namespace ArgumentType

variable {type : ArgumentType} {b : Bound}

/-- The value as an argument of the type, present under each of its options. -/
def wrap : ArgumentType → Bound → Argument
  | .optional type, b => .present (type.wrap b)
  | _, b => .value b

/-- Whether an argument of the type is missing where nothing is bound. -/
def IsRequired : ArgumentType → Prop
  | .scalar _ | .custom _ => True
  | .flags | .optional _ => False

/-- A value that was read for the type is taken out at the type. -/
theorem take_some (h : b.slot = type.slot) (i : Nat) :
    type.take (some b) i = .ok (type.wrap b) := by
  induction type with
  | scalar kind | custom name => simp [take, h, wrap]
  | flags =>
      cases b with
      | flags f => rfl
      | scalar v | custom name parts => cases h
  | optional type ih =>
      rw [take, ih h]
      rfl

theorem take_none_of_isRequired (h : type.IsRequired) (i : Nat) :
    type.take none i = .error (.missingArgument i type.slot.name) := by
  cases type with
  | scalar kind | custom name => rfl
  | flags | optional type => exact h.elim

theorem exists_take_none (h : ¬ type.IsRequired) (i : Nat) : ∃ a, type.take none i = .ok a := by
  cases type with
  | scalar kind | custom name => exact absurd trivial h
  | flags | optional type => exact ⟨_, rfl⟩

end ArgumentType

/-! ## What is read for a slot -/

namespace Reader

variable {r : Reader} {custom : Text → Reading (Option Bound)} {type : Text} {s : Slot} {b : Bound}
  {p q : Nat}

/-- Whether the values read for a custom type are of that type. -/
def Faithful (custom : Text → Reading (Option Bound)) : Prop :=
  ∀ type p b q, custom type p = (.ok (some b), q) → b.slot = .custom type

/-- A value of a custom type is made by the parser of the type. -/
theorem exists_of_customWithin {depth : Nat}
    (h : r.customWithin depth type p = (.ok (some b), q)) :
    ∃ inner plan parts, r.parsers.get? type = some plan ∧
      r.followWith (r.customWithin inner) plan p = (.ok parts, q) ∧ b = .custom type parts := by
  cases depth with
  | zero => cases h
  | succ depth =>
      cases hparser : r.parsers.get? type with
      | none =>
          rw [customWithin, hparser] at h
          cases h
      | some plan =>
          rw [customWithin, hparser] at h
          obtain ⟨parts, q', hparts, h⟩ := Reading.exists_of_bind_eq_ok h
          cases h
          exact ⟨depth, plan, parts, rfl, hparts, rfl⟩

theorem faithful_customWithin (r : Reader) (depth : Nat) : Faithful (r.customWithin depth) := by
  intro type p b q h
  obtain ⟨inner, plan, parts, -, -, rfl⟩ := exists_of_customWithin h
  rfl

theorem slot_of_scalar {kind : ScalarKind} (h : r.scalar kind p = (.ok (some b), q)) :
    b.slot = .scalar kind := by
  unfold scalar at h
  split at h
  · cases h
  · split at h
    · rename_i v hv
      cases h
      exact congrArg Slot.scalar (ScalarKind.kind_of_coerce hv)
    · cases h

theorem slot_of_slotWith (hcustom : Faithful custom)
    (h : r.slotWith custom s p = (.ok (some b), q)) : b.slot = s := by
  cases s with
  | scalar kind => exact slot_of_scalar h
  | custom type => exact hcustom type p b q h
  | flags =>
      cases h
      rfl

theorem slot_of_slot (h : r.slot s p = (.ok (some b), q)) : b.slot = s :=
  slot_of_slotWith (faithful_customWithin r r.depth) h

/-- Reading an argument is reading its slot: what is read is given at the type, and it is the read
that fails or gives nothing. -/
theorem argumentWith_eq (hcustom : Faithful custom) (type : ArgumentType) (p : Nat) :
    r.argumentWith custom type p =
      ((r.slotWith custom type.slot p).1.map (Option.map type.wrap),
        (r.slotWith custom type.slot p).2) := by
  unfold argumentWith
  split
  · rename_i q hslot
    rw [hslot]
    rfl
  · rename_i b q hslot
    rw [hslot, ArgumentType.take_some (slot_of_slotWith hcustom hslot)]
    rfl
  · rename_i e q hslot
    rw [hslot]
    rfl

/-- A flag fails where its value does not coerce, and nowhere else. -/
theorem exists_parse_of_flag {type : ArgumentType} {key : Text} {e : CommandError}
    (h : r.flag type key = .error e) : ∃ fault, e = .parse fault := by
  unfold flag at h
  split at h
  · rename_i value kind _ hslot
    split at h
    · cases h
    · split at h
      · rename_i v hv
        have hkind : (Bound.scalar v).slot = type.slot := by
          rw [hslot, ← ScalarKind.kind_of_coerce hv]
          rfl
        rw [ArgumentType.take_some hkind] at h
        cases h
      · split at h <;> cases h <;> exact ⟨_, rfl⟩
  · cases h

/-- What is bound to parameters: to each of them a value of its slot or nothing. -/
theorem forall₂_of_bind {slots : List Slot} {values : List (Option Bound)}
    (h : r.bind slots p = (.ok values, q)) :
    List.Forall₂ (fun s value => ∀ b, value = some b → b.slot = s) slots values := by
  induction slots generalizing p values with
  | nil =>
      cases h
      exact .nil
  | cons s rest ih =>
      rw [bind_cons] at h
      obtain ⟨value, q', values, hfirst, hrest, rfl⟩ := exists_of_consWith_eq_ok h
      refine .cons ?_ (ih hrest)
      rintro b rfl
      unfold bindSlot at hfirst
      split at hfirst
      · cases hfirst
      · exact slot_of_slot hfirst

end Reader

end LineDispatch
