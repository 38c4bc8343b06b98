import LineDispatch.ReadStep
import LineDispatch.Proofs.Context.FlagValues
import LineDispatch.Proofs.Reader.Typing

/-!
# The errors of reading a call

A parse error that comes out of reading a call is raised in one of two places:
where a positional parameter does not coerce, told against the parameters, and
where the value of a flag does not coerce, told against the raw tokens
(`Context.Faults`).  Between these places and the operation stand the type
parsers, which may read anything in any order, read further types, and go on
after an error.  What is asked of them is that they make up no errors
(`ReadPlan.PassesOnly`): they fail with texts of their own and with errors that
a read of theirs has given, unchanged.

`Reading.Throws` bounds the errors of a reading, and every way to build a
reading keeps the bound, so that a bound of the requests (`Reader.Covers`) is one
of the whole call; the bound in question is `Operation.raises_of_invoke`.
-/

namespace LineDispatch

/-! ## Plans that make up no errors -/

namespace ReadPlan

variable {α β : Type} {known more : CommandError → Prop}

/-- Whether every error that the plan passes on is one of the `known` ones or was given by a read
of the plan itself. -/
def PassesOnly : ReadPlan α → (CommandError → Prop) → Prop
  | .done _, _ => True
  | .fail _, _ => True
  | .pass e, known => known e
  | .read _ next rescue, known | .flag _ _ next rescue, known =>
    (∀ a, (next a).PassesOnly known) ∧
      ∀ given, (rescue given).PassesOnly fun e => known e ∨ e = given
  | .token next, known => ∀ t, (next t).PassesOnly known
  | .position next, known => ∀ n, (next n).PassesOnly known
  | .parameters next, known => ∀ ps, (next ps).PassesOnly known
  | .flags next, known => ∀ flags, (next flags).PassesOnly known
  | .tokens next, known => ∀ ts, (next ts).PassesOnly known

theorem PassesOnly.mono {plan : ReadPlan α} (h : plan.PassesOnly known)
    (hknown : ∀ e, known e → more e) : plan.PassesOnly more := by
  induction plan generalizing known more with
  | done | fail => trivial
  | pass e => exact hknown e h
  | read type next rescue ihNext ihRescue | flag type key next rescue ihNext ihRescue =>
      refine ⟨fun a => ihNext a (h.1 a) hknown, fun given => ihRescue given (h.2 given) ?_⟩
      exact fun e he => he.imp (hknown e) id
  | token next ih | position next ih | parameters next ih | flags next ih | tokens next ih =>
      exact fun answer => ih answer (h answer) hknown

theorem PassesOnly.bind {plan : ReadPlan α} (h : plan.PassesOnly known) {f : α → ReadPlan β}
    (hf : ∀ a, (f a).PassesOnly known) : (plan >>= f).PassesOnly known := by
  induction plan generalizing known with
  | done a => exact hf a
  | fail => trivial
  | pass e => exact h
  | read type next rescue ihNext ihRescue | flag type key next rescue ihNext ihRescue =>
      refine ⟨fun a => ihNext a (h.1 a) hf, fun given => ihRescue given (h.2 given) ?_⟩
      exact fun a => (hf a).mono fun e he => .inl he
  | token next ih | position next ih | parameters next ih | flags next ih | tokens next ih =>
      exact fun answer => ih answer (h answer) hf

end ReadPlan

namespace ReadStep

variable {known : CommandError → Prop}

theorem passesOnly_plan (step : ReadStep) : step.plan.PassesOnly known := by
  cases step with
  | read type | flag type key => exact ⟨fun _ => trivial, fun given => .inr rfl⟩
  | token => exact fun _ => trivial
  | hasNext | remaining => exact fun _ _ => trivial
  | position => exact fun _ => trivial
  | parameters => exact fun _ => trivial
  | fail message => trivial

/-- Scripts make up no errors. -/
theorem passesOnly_script (steps : List ReadStep) : (parser steps).PassesOnly known := by
  induction steps with
  | nil => trivial
  | cons step rest ih =>
      exact step.passesOnly_plan.bind fun text => ih.bind fun parts => trivial

end ReadStep

/-- Whether no parser makes up an error. -/
def TypeParsers.PassErrors (parsers : TypeParsers) : Prop :=
  ∀ type plan, parsers.get? type = some plan → plan.PassesOnly fun _ => False

/-! ## The errors of a call -/

namespace Context

/-- The parse errors that can be raised in reading a call.  Each points at the token that does not
coerce, among the parameters or among the raw tokens. -/
inductive Faults (c : Context) : ParseError → Prop
  | parameter {i : Nat} {token : Text} {kind : ScalarKind} {fault : ParseFault}
    (htoken : c.parameters[i]? = some token) (hfault : kind.coerce token = .error fault) :
    Faults c ⟨fault, c.parameters, i⟩
  | flagValue {key : Text} {i : Nat} {token : Text} {kind : ScalarKind} {fault : ParseFault}
    (hvalue : c.flags.value? key = some token) (hindex : c.flagValueIndex key = some i)
    (htoken : c.tokens[i]? = some token) (hfault : kind.coerce token = .error fault) :
    Faults c ⟨fault, c.tokens, i⟩

/-- The errors that can be raised in reading a call and running its operation. -/
def Raises (c : Context) : CommandError → Prop
  | .parse e => c.Faults e
  | .missingArgument _ _ | .failed _ => True
  | .emptyCommand | .unknownCommand _ _ => False

end Context

theorem ArgumentType.take_eq_error {type : ArgumentType} {b : Option Bound} {i : Nat}
    {e : CommandError} (h : type.take b i = .error e) :
    ∃ index expected, e = .missingArgument index expected := by
  induction type generalizing b with
  | scalar kind | custom name =>
      cases b with
      | none =>
          cases h
          exact ⟨_, _, rfl⟩
      | some b =>
          simp only [take] at h
          split at h
          · cases h
          · cases h
            exact ⟨_, _, rfl⟩
  | flags =>
      rcases b with _ | (_ | _ | _) <;> cases h
  | optional type ih =>
      cases b with
      | none => cases h
      | some b =>
          simp only [take] at h
          exact ih (map_eq_error_iff.1 h)

theorem Context.raises_of_take {c : Context} {type : ArgumentType} {b : Option Bound} {i : Nat}
    {e : CommandError} (h : type.take b i = .error e) : c.Raises e := by
  obtain ⟨index, expected, rfl⟩ := ArgumentType.take_eq_error h
  trivial

/-! ## Readings -/

namespace Reading

variable {α β : Type} {P : CommandError → Prop}

/-- Whether every error of the reading, from whatever cursor, is one of `P`. -/
def Throws (m : Reading α) (P : CommandError → Prop) : Prop :=
  ∀ p e q, m p = (.error e, q) → P e

theorem throws_give {result : Except CommandError α} (h : ∀ e, result = .error e → P e) :
    (give result).Throws P := by
  intro p e q he
  exact h e (congrArg Prod.fst he)

theorem throws_pure (a : α) : (pure a : Reading α).Throws P := by
  refine throws_give ?_
  intro e he
  cases he

theorem Throws.handle {m : Reading α} (hm : m.Throws P) {next : α → Reading β}
    (hnext : ∀ a, (next a).Throws P) {rescue : CommandError → Reading β}
    (hrescue : ∀ e, P e → (rescue e).Throws P) : (m.handle next rescue).Throws P := by
  intro p e q he
  unfold Reading.handle at he
  split at he
  · exact hnext _ _ _ _ he
  · rename_i given q' hgiven
    exact hrescue given (hm _ _ _ hgiven) _ _ _ he

theorem Throws.bind {m : Reading α} (hm : m.Throws P) {f : α → Reading β}
    (hf : ∀ a, (f a).Throws P) : (m >>= f).Throws P := by
  refine hm.handle hf ?_
  intro e he
  refine throws_give ?_
  intro e' heq
  cases heq
  exact he

end Reading

namespace Reader

open Reading

variable {r : Reader} {α : Type} {P : CommandError → Prop} {custom : Text → Reading (Option Bound)}

/-! ## What one request raises -/

/-- Whether all errors that do not come from a plan are among `P`: the failures that are told as
a text, the tokens that do not coerce and the values of flags that do not. -/
structure Covers (r : Reader) (P : CommandError → Prop) : Prop where
  failed : ∀ message, P (.failed message)
  scalar : ∀ kind, (r.scalar kind).Throws P
  flag : ∀ type key e, r.flag type key = .error e → P e

theorem throws_token : r.token.Throws P := by
  intro p e q he
  unfold token at he
  split at he <;> cases he

theorem throws_scalar (kind : ScalarKind) : (r.scalar kind).Throws r.context.Raises := by
  intro p e q he
  unfold scalar at he
  split at he
  · cases he
  · rename_i t ht
    split at he
    · cases he
    · rename_i fault hfault
      cases he
      exact .parameter ht hfault

/-- A flag without a value stands for a token that every kind it is read at accepts, so that an
error is about a value that was given, and that has its place among the tokens. -/
theorem raises_of_flag (hc : r.context.Itemized) {type : ArgumentType} {key : Text}
    {e : CommandError} (h : r.flag type key = .error e) : r.context.Raises e := by
  unfold flag at h
  split at h
  · rename_i value kind hget _
    split at h
    · cases h
    · rename_i raw hraw
      split at h
      · exact Context.raises_of_take (map_eq_error_iff.1 h)
      · rename_i fault hfault
        have hvalue : r.context.flags.value? key = some raw := by
          cases value with
          | some v =>
              cases hraw
              rw [Flags.value?, hget]
              rfl
          -- Without a value the flag is read as true, which a truth value accepts.
          | none =>
              rw [Option.none_or] at hraw
              split at hraw
              · rename_i hbool
                rw [hbool] at hfault
                cases hfault
              · cases hraw
        obtain ⟨i, hi, htoken⟩ := Context.getElem?_flagValueIndex hc hvalue
        rw [hi] at h
        cases h
        exact .flagValue hvalue hi htoken hfault
  · cases h

theorem covers_raises (hc : r.context.Itemized) : r.Covers r.context.Raises where
  failed _ := trivial
  scalar := throws_scalar
  flag _ _ _ := raises_of_flag hc

/-- A rescue also knows the error that the read has just given. -/
theorem known_or_given {known : CommandError → Prop} (hknown : ∀ e, known e → P e)
    {given : CommandError} (hgiven : P given) (e : CommandError) (h : known e ∨ e = given) :
    P e := by
  rcases h with h | rfl
  · exact hknown e h
  · exact hgiven

section Covered

variable (hr : r.Covers P)

include hr

theorem throws_slotWith (hcustom : ∀ type, (custom type).Throws P) (s : Slot) :
    (r.slotWith custom s).Throws P := by
  cases s with
  | scalar kind => exact hr.scalar kind
  | custom type => exact hcustom type
  | flags => exact throws_pure _

theorem throws_argumentWith (hfaithful : Faithful custom)
    (hcustom : ∀ type, (custom type).Throws P) (type : ArgumentType) :
    (r.argumentWith custom type).Throws P := by
  intro p e q he
  rw [argumentWith_eq hfaithful] at he
  have hslot : (r.slotWith custom type.slot p).1 = .error e :=
    map_eq_error_iff.1 (congrArg Prod.fst he)
  exact throws_slotWith hr hcustom type.slot p e _ (Prod.ext hslot rfl)

/-! ## What plans and parsers raise -/

/-- A plan raises what its reads raise, if what it knows already is among that. -/
theorem throws_followWith (hfaithful : Faithful custom)
    (hcustom : ∀ type, (custom type).Throws P) {known : CommandError → Prop}
    (hknown : ∀ e, known e → P e) {plan : ReadPlan α} (hplan : plan.PassesOnly known) :
    (r.followWith custom plan).Throws P := by
  induction plan generalizing known with
  | done a => exact throws_pure a
  | fail message =>
      refine throws_give fun e he => ?_
      cases he
      exact hr.failed message
  | pass e =>
      refine throws_give fun e' he => ?_
      cases he
      exact hknown e hplan
  | read type next rescue ihNext ihRescue =>
      refine (throws_argumentWith hr hfaithful hcustom type).handle
        (fun a => ihNext a hknown (hplan.1 a)) ?_
      intro given hgiven
      exact ihRescue given (known_or_given hknown hgiven) (hplan.2 given)
  | flag type key next rescue ihNext ihRescue =>
      refine (throws_give fun e he => hr.flag type key e he).handle
        (fun a => ihNext a hknown (hplan.1 a)) ?_
      intro given hgiven
      exact ihRescue given (known_or_given hknown hgiven) (hplan.2 given)
  | token next ih => exact throws_token.bind fun t => ih t hknown (hplan t)
  | position next ih =>
      intro p e q he
      exact ih p hknown (hplan p) p e q he
  | parameters next ih => exact ih _ hknown (hplan _)
  | flags next ih => exact ih _ hknown (hplan _)
  | tokens next ih => exact ih _ hknown (hplan _)

variable (hparsers : ∀ type plan, r.parsers.get? type = some plan → plan.PassesOnly P)

include hparsers

theorem throws_customWithin (depth : Nat) (type : Text) : (r.customWithin depth type).Throws P := by
  induction depth generalizing type with
  -- At the bottom nothing is read, and the error is a text.
  | zero =>
      refine throws_give fun e he => ?_
      cases he
      exact hr.failed _
  | succ depth ih =>
      unfold customWithin
      split
      · exact throws_pure _
      · rename_i plan hplan
        have hfollow : (r.followWith (r.customWithin depth) plan).Throws P :=
          throws_followWith hr (faithful_customWithin r depth) ih (fun _ => id) (hparsers _ _ hplan)
        exact hfollow.bind fun parts => throws_pure _

theorem throws_slot (s : Slot) : (r.slot s).Throws P :=
  throws_slotWith hr (throws_customWithin hr hparsers r.depth) s

theorem throws_bind (slots : List Slot) : (r.bind slots).Throws P := by
  induction slots with
  | nil => exact throws_pure _
  | cons s rest ih =>
      refine Throws.bind ?_ fun b => ih.bind fun bs => throws_pure _
      intro p e q he
      dsimp only at he
      split at he
      · cases he
      · exact throws_slot hr hparsers s _ _ _ he

end Covered

end Reader

namespace Operation

theorem raises_of_takeAll {c : Context} {index : Nat} {types : List ArgumentType}
    {bound : List (Option Bound)} {e : CommandError} (h : takeAll index types bound = .error e) :
    c.Raises e := by
  induction types generalizing index bound with
  | nil => cases h
  | cons type types ih =>
      unfold takeAll at h
      rcases bind_eq_error_iff.1 h with hfirst | ⟨argument, -, h⟩
      · exact Context.raises_of_take hfirst
      · rcases bind_eq_error_iff.1 h with hrest | ⟨arguments, -, h⟩
        · exact ih hrest
        · cases h

/-- All that calling an operation can raise. -/
theorem raises_of_invoke {op : Operation} {r : Reader} (hc : r.context.Itemized)
    (hparsers : r.parsers.PassErrors) {e : CommandError} (h : op.invoke r = .error e) :
    r.context.Raises e := by
  unfold invoke at h
  rcases bind_eq_error_iff.1 h with hbind | ⟨bound, -, h⟩
  · have hpass : ∀ type plan, r.parsers.get? type = some plan → plan.PassesOnly r.context.Raises :=
      fun type plan hplan => (hparsers type plan hplan).mono fun _ => False.elim
    exact Reader.throws_bind (Reader.covers_raises hc) hpass op.slots 0 e _ (Prod.ext hbind rfl)
  · rcases bind_eq_error_iff.1 h with htake | ⟨arguments, -, h⟩
    · exact raises_of_takeAll htake
    · obtain ⟨message, -, rfl⟩ := mapError_eq_error_iff.1 h
      trivial

end Operation

end LineDispatch
