import LineDispatch.Operation
import LineDispatch.Proofs.Reader.Binding

/-!
# Reading two calls side by side

The raw tokens of a call are kept for one purpose, which is to say where the
value of a flag stands when it does not fit.  Nothing else depends on them: over
two calls with the same parameters and the same flags every read moves the cursor
alike and gives the same, or both fail in the value of one flag and each points
at it among its own tokens (`Context.ErrorsMatch`).

Both calls are followed at once.  `Reading.Agree` relates two readings that do
the same up to such errors, and every way to build a reading keeps the relation.
A type parser keeps it if it does not ask for the raw tokens and, once it has got
an error, goes on in a way that does not hang on where the error points
(`ReadPlan.Discreet`); most parsers just pass it on (`ReadPlan.Plain`).
-/

namespace LineDispatch

/-- Whether two errors are the same but for where a parse error points. -/
inductive CommandError.SameCause : CommandError → CommandError → Prop
  | refl (e : CommandError) : SameCause e e
  | parse {e e' : ParseError} (h : e.fault = e'.fault) : SameCause (.parse e) (.parse e')

/-! ## Plans that do not look at places -/

namespace ReadPlan

variable {α β : Type}

/-- Two plans that ask for the same things, none of them the raw tokens, and go on alike.  After
errors with one cause they go on alike too, and then each may pass on its own: `known` relates the
errors that the one has got to those of the other. -/
inductive Alike : (CommandError → CommandError → Prop) → ReadPlan α → ReadPlan α → Prop
  | done {known} (a : α) : Alike known (.done a) (.done a)
  | fail {known} (message : Text) : Alike known (.fail message) (.fail message)
  | same {known} (e : CommandError) : Alike known (.pass e) (.pass e)
  | pass {known e e'} (h : known e e') : Alike known (.pass e) (.pass e')
  | read {known type next next' rescue rescue'} (hnext : ∀ a, Alike known (next a) (next' a))
      (hrescue : ∀ e e', e.SameCause e' →
        Alike (fun x x' => known x x' ∨ x = e ∧ x' = e') (rescue e) (rescue' e')) :
      Alike known (.read type next rescue) (.read type next' rescue')
  | flag {known type key next next' rescue rescue'} (hnext : ∀ a, Alike known (next a) (next' a))
      (hrescue : ∀ e e', e.SameCause e' →
        Alike (fun x x' => known x x' ∨ x = e ∧ x' = e') (rescue e) (rescue' e')) :
      Alike known (.flag type key next rescue) (.flag type key next' rescue')
  | token {known next next'} (h : ∀ t, Alike known (next t) (next' t)) :
      Alike known (.token next) (.token next')
  | position {known next next'} (h : ∀ n, Alike known (next n) (next' n)) :
      Alike known (.position next) (.position next')
  | parameters {known next next'} (h : ∀ ps, Alike known (next ps) (next' ps)) :
      Alike known (.parameters next) (.parameters next')
  | flags {known next next'} (h : ∀ flags, Alike known (next flags) (next' flags)) :
      Alike known (.flags next) (.flags next')

/-- Whether the plan goes on alike over calls that differ in their raw tokens alone. -/
def Discreet (plan : ReadPlan α) : Prop := Alike (fun _ _ => False) plan plan

/-- Whether the plan never asks for the raw tokens and passes on every error of a read unchanged. -/
def Plain : ReadPlan α → Prop
  | .done _ | .fail _ | .pass _ => True
  | .read _ next rescue | .flag _ _ next rescue =>
    (∀ a, (next a).Plain) ∧ ∀ e, rescue e = .pass e
  | .token next => ∀ t, (next t).Plain
  | .position next => ∀ n, (next n).Plain
  | .parameters next => ∀ ps, (next ps).Plain
  | .flags next => ∀ flags, (next flags).Plain
  | .tokens _ => False

theorem Plain.alike {plan : ReadPlan α} (h : plan.Plain)
    (known : CommandError → CommandError → Prop) : Alike known plan plan := by
  -- A rescue that passes on what it gets is alike for any two errors.
  have hpass : ∀ {rescue : CommandError → ReadPlan α}, (∀ e, rescue e = .pass e) → ∀ e e',
      Alike (fun x x' => known x x' ∨ x = e ∧ x' = e') (rescue e) (rescue e') := by
    intro rescue hrescue e e'
    rw [hrescue e, hrescue e']
    exact .pass (.inr ⟨rfl, rfl⟩)
  induction plan with
  | done a => exact .done a
  | fail message => exact .fail message
  | pass e => exact .same e
  | read type next rescue ih _ => exact .read (fun a => ih a (h.1 a)) fun e e' _ => hpass h.2 e e'
  | flag type key next rescue ih _ =>
      exact .flag (fun a => ih a (h.1 a)) fun e e' _ => hpass h.2 e e'
  | token next ih => exact .token fun t => ih t (h t)
  | position next ih => exact .position fun n => ih n (h n)
  | parameters next ih => exact .parameters fun ps => ih ps (h ps)
  | flags next ih => exact .flags fun flags => ih flags (h flags)
  | tokens next => exact h.elim

theorem Plain.discreet {plan : ReadPlan α} (h : plan.Plain) : plan.Discreet := h.alike _

theorem Plain.bind {plan : ReadPlan α} (h : plan.Plain) {f : α → ReadPlan β}
    (hf : ∀ a, (f a).Plain) : (plan >>= f).Plain := by
  induction plan with
  | done a => exact hf a
  | fail | pass => trivial
  | read type next rescue ih _ | flag type key next rescue ih _ =>
      refine ⟨fun a => ih a (h.1 a), fun e => ?_⟩
      show (rescue e).bind f = .pass e
      rw [h.2 e]
      rfl
  | token next ih | position next ih | parameters next ih | flags next ih =>
      exact fun answer => ih answer (h answer)
  | tokens next => exact h.elim

end ReadPlan

namespace ReadStep

theorem plain_plan (step : ReadStep) : step.plan.Plain := by
  cases step with
  | read type | flag type key => exact ⟨fun _ => trivial, fun _ => rfl⟩
  | token | position | parameters => exact fun _ => trivial
  | hasNext | remaining => exact fun _ _ => trivial
  | fail message => trivial

theorem plain_script (steps : List ReadStep) : (parser steps).Plain := by
  induction steps with
  | nil => trivial
  | cons step rest ih => exact step.plain_plan.bind fun text => ih.bind fun parts => trivial

end ReadStep

/-- Whether no parser goes by the raw tokens or by the place of an error. -/
def TypeParsers.Discreet (parsers : TypeParsers) : Prop :=
  ∀ type plan, parsers.get? type = some plan → plan.Discreet

/-! ## Readings that agree -/

namespace Reading

variable {α β : Type} {E : CommandError → CommandError → Prop}

/-- Whether two readings do the same from every cursor, or fail with errors related by `E` and
leave the cursor at the same place. -/
def Agree (E : CommandError → CommandError → Prop) (m m' : Reading α) : Prop :=
  ∀ p, (∃ a q, m p = (.ok a, q) ∧ m' p = (.ok a, q)) ∨
    ∃ e e' q, m p = (.error e, q) ∧ m' p = (.error e', q) ∧ E e e'

theorem Agree.refl (hE : ∀ e, E e e) (m : Reading α) : Agree E m m := by
  intro p
  rcases hm : m p with ⟨e | a, q⟩
  · exact .inr ⟨e, e, q, rfl, rfl, hE e⟩
  · exact .inl ⟨a, q, rfl, rfl⟩

theorem agree_give_error {e e' : CommandError} (h : E e e') :
    Agree E (give (.error e) : Reading α) (give (.error e')) :=
  fun p => .inr ⟨e, e', p, rfl, rfl, h⟩

theorem Agree.handle {m m' : Reading α} (hm : Agree E m m') {next next' : α → Reading β}
    (hnext : ∀ a, Agree E (next a) (next' a)) {rescue rescue' : CommandError → Reading β}
    (hrescue : ∀ e e', E e e' → Agree E (rescue e) (rescue' e')) :
    Agree E (m.handle next rescue) (m'.handle next' rescue') := by
  intro p
  rcases hm p with ⟨a, q, h, h'⟩ | ⟨e, e', q, h, h', hE⟩
  · rw [handle_of_ok h, handle_of_ok h']
    exact hnext a q
  · rw [handle_of_error h, handle_of_error h']
    exact hrescue e e' hE q

theorem Agree.bind {m m' : Reading α} (hm : Agree E m m') {f f' : α → Reading β}
    (hf : ∀ a, Agree E (f a) (f' a)) : Agree E (m >>= f) (m' >>= f') :=
  hm.handle hf fun _ _ hE => agree_give_error hE

end Reading

/-! ## Calls with the same parameters and flags -/

namespace Context

/-- Whether two contexts differ in their raw tokens alone. -/
structure SameArguments (c c' : Context) : Prop where
  parameters : c.parameters = c'.parameters
  flags : c.flags = c'.flags

/-- The errors that reading two such calls comes to: the same, or errors with one fault that reading
the value of one flag gives in either call. -/
inductive ErrorsMatch (c c' : Context) : CommandError → CommandError → Prop
  | same (e : CommandError) : ErrorsMatch c c' e e
  | flagValue {type : ArgumentType} {key : Text} {e e' : ParseError}
    (h : Reader.flag { context := c } type key = .error (.parse e))
    (h' : Reader.flag { context := c' } type key = .error (.parse e'))
    (hfault : e.fault = e'.fault) : ErrorsMatch c c' (.parse e) (.parse e')

variable {c c' : Context}

theorem SameArguments.skip (h : c.SameArguments c') (n : Nat) :
    (c.skip n).SameArguments (c'.skip n) :=
  ⟨congrArg (List.drop n) h.parameters, h.flags⟩

theorem ErrorsMatch.sameCause {e e' : CommandError} (h : c.ErrorsMatch c' e e') :
    e.SameCause e' := by
  cases h with
  | same => exact .refl e
  | flagValue _ _ hfault => exact .parse hfault

/-- A rescue also knows the errors that the read has just given. -/
theorem match_of_known {known : CommandError → CommandError → Prop}
    (hknown : ∀ e e', known e e' → c.ErrorsMatch c' e e') {given given' : CommandError}
    (hgiven : c.ErrorsMatch c' given given') (e e' : CommandError)
    (h : known e e' ∨ e = given ∧ e' = given') : c.ErrorsMatch c' e e' := by
  rcases h with h | ⟨rfl, rfl⟩
  · exact hknown e e' h
  · exact hgiven

end Context

namespace Reader

open Reading Context

variable {α : Type} {c c' : Context} {parsers : TypeParsers}
  {custom custom' : Text → Reading (Option Bound)}

section Requests

variable {r r' : Reader} (hsame : r.context.SameArguments r'.context)

include hsame

theorem token_congr : r.token = r'.token := by
  unfold token
  rw [hsame.parameters]

theorem scalar_congr (kind : ScalarKind) : r.scalar kind = r'.scalar kind := by
  unfold scalar
  rw [hsame.parameters]

/-- The value of a flag fits in both calls or in neither, and where it does not the fault is the
same. -/
theorem flag_eq_or (type : ArgumentType) (key : Text) :
    r.flag type key = r'.flag type key ∨
      ∃ e e', r.flag type key = .error (.parse e) ∧ r'.flag type key = .error (.parse e') ∧
        e.fault = e'.fault := by
  have hflags := hsame.flags
  unfold flag
  rw [hflags]
  cases r'.context.flags.get? key with
  | none => exact .inl rfl
  | some value =>
      cases type.slot with
      | custom | flags => exact .inl rfl
      | scalar kind =>
          dsimp only
          cases value.or (if kind = .bool then some "true".toList else none) with
          | none => exact .inl rfl
          | some raw =>
              dsimp only
              cases kind.coerce raw with
              | ok v => exact .inl rfl
              -- The one place where the raw tokens are asked for.
              | error fault =>
                  right
                  dsimp only
                  cases r.context.flagValueIndex key <;> cases r'.context.flagValueIndex key <;>
                    exact ⟨_, _, rfl, rfl, rfl⟩

theorem agree_flag (type : ArgumentType) (key : Text) :
    Agree (r.context.ErrorsMatch r'.context) (give (r.flag type key))
      (give (r'.flag type key)) := by
  rcases flag_eq_or hsame type key with heq | ⟨e, e', h, h', hfault⟩
  · rw [heq]
    exact Agree.refl .same _
  · rw [h, h']
    exact agree_give_error (.flagValue h h' hfault)

variable (hcustom : ∀ type,
  Agree (r.context.ErrorsMatch r'.context) (custom type) (custom' type))

include hcustom

theorem agree_slotWith (s : Slot) :
    Agree (r.context.ErrorsMatch r'.context) (r.slotWith custom s) (r'.slotWith custom' s) := by
  cases s with
  | scalar kind =>
      show Agree _ (r.scalar kind) (r'.scalar kind)
      rw [scalar_congr hsame kind]
      exact Agree.refl .same _
  | custom type => exact hcustom type
  | flags =>
      show Agree _ (pure (some (Bound.flags r.context.flags)))
        (pure (some (Bound.flags r'.context.flags)))
      rw [hsame.flags]
      exact Agree.refl .same _

theorem agree_argumentWith (type : ArgumentType) :
    Agree (r.context.ErrorsMatch r'.context) (r.argumentWith custom type)
      (r'.argumentWith custom' type) := by
  intro p
  unfold argumentWith
  rcases agree_slotWith hsame hcustom type.slot p with
    ⟨_ | b, q, h, h'⟩ | ⟨e, e', q, h, h', hmatch⟩
  · rw [h, h']
    exact .inl ⟨none, q, rfl, rfl⟩
  · rw [h, h']
    dsimp only
    cases type.take (some b) p with
    | ok argument => exact .inl ⟨some argument, q, rfl, rfl⟩
    | error e => exact .inr ⟨e, e, q, rfl, rfl, .same e⟩
  · rw [h, h']
    exact .inr ⟨e, e', q, rfl, rfl, hmatch⟩

/-- Plans that are alike are followed alike, as long as the errors they know already match. -/
theorem agree_followWith {known : CommandError → CommandError → Prop} {plan plan' : ReadPlan α}
    (hplan : plan.Alike known plan')
    (hknown : ∀ e e', known e e' → r.context.ErrorsMatch r'.context e e') :
    Agree (r.context.ErrorsMatch r'.context) (r.followWith custom plan)
      (r'.followWith custom' plan') := by
  induction hplan with
  | done a => exact Agree.refl .same _
  | fail message => exact Agree.refl .same _
  | same e => exact Agree.refl .same _
  | pass h => exact agree_give_error (hknown _ _ h)
  | read _ _ ih ihRescue =>
      refine (agree_argumentWith hsame hcustom _).handle (fun a => ih a hknown) ?_
      intro e e' hmatch
      exact ihRescue e e' hmatch.sameCause (match_of_known hknown hmatch)
  | flag _ _ ih ihRescue =>
      refine (agree_flag hsame _ _).handle (fun a => ih a hknown) ?_
      intro e e' hmatch
      exact ihRescue e e' hmatch.sameCause (match_of_known hknown hmatch)
  | token _ ih =>
      show Agree _ (r.token >>= _) (r'.token >>= _)
      rw [token_congr hsame]
      exact (Agree.refl .same _).bind fun t => ih t hknown
  | position _ ih => exact fun p => ih p hknown p
  | @parameters _ next _ _ ih =>
      show Agree _ (r.followWith custom (next _)) _
      rw [hsame.parameters]
      exact ih _ hknown
  | @flags _ next _ _ ih =>
      show Agree _ (r.followWith custom (next _)) _
      rw [hsame.flags]
      exact ih _ hknown

end Requests

/-! ## Whole reads -/

section Reads

variable (hparsers : parsers.Discreet) (hsame : c.SameArguments c')

include hparsers hsame

/-- By induction on how deep parsers may still be within parsers. -/
theorem agree_customWithin (depth : Nat) (type : Text) :
    Agree (c.ErrorsMatch c') (customWithin ⟨c, parsers⟩ depth type)
      (customWithin ⟨c', parsers⟩ depth type) := by
  induction depth generalizing type with
  | zero => exact Agree.refl .same _
  | succ depth ih =>
      unfold customWithin
      dsimp only
      split
      · exact Agree.refl .same _
      · rename_i plan hplan
        have hrun : Agree (c.ErrorsMatch c')
            (followWith ⟨c, parsers⟩ (customWithin ⟨c, parsers⟩ depth) plan)
            (followWith ⟨c', parsers⟩ (customWithin ⟨c', parsers⟩ depth) plan) :=
          agree_followWith hsame ih (hparsers type plan hplan) fun e e' h => h.elim
        exact hrun.bind fun parts => Agree.refl .same _

theorem agree_slot (s : Slot) :
    Agree (c.ErrorsMatch c') (slot ⟨c, parsers⟩ s) (slot ⟨c', parsers⟩ s) := by
  have hdepth : depth ⟨c, parsers⟩ = depth ⟨c', parsers⟩ := by
    unfold depth
    rw [hsame.parameters]
  have hcustom : ∀ type, Agree (c.ErrorsMatch c') (custom ⟨c, parsers⟩ type)
      (custom ⟨c', parsers⟩ type) := by
    intro type
    unfold custom
    rw [hdepth]
    exact agree_customWithin hparsers hsame _ type
  exact agree_slotWith hsame hcustom s

theorem agree_bindSlot (s : Slot) :
    Agree (c.ErrorsMatch c') (bindSlot ⟨c, parsers⟩ s) (bindSlot ⟨c', parsers⟩ s) := by
  intro p
  have hnext : hasNext ⟨c, parsers⟩ p = hasNext ⟨c', parsers⟩ p := by
    unfold hasNext
    rw [hsame.parameters]
  unfold bindSlot
  rw [hnext]
  split
  · exact .inl ⟨none, p, rfl, rfl⟩
  · exact agree_slot hparsers hsame s p

theorem agree_bind (slots : List Slot) :
    Agree (c.ErrorsMatch c') (bind ⟨c, parsers⟩ slots) (bind ⟨c', parsers⟩ slots) := by
  induction slots with
  | nil => exact Agree.refl .same _
  | cons s rest ih =>
      rw [bind_cons, bind_cons]
      exact (agree_bindSlot hparsers hsame s).bind fun b => ih.bind fun bs => Agree.refl .same _

end Reads

end Reader

/-- Over two calls with the same parameters and flags an operation answers the same, or the two
fail with errors that match. -/
theorem Operation.invoke_eq_or_match {c c' : Context} {parsers : TypeParsers}
    (hparsers : parsers.Discreet) (hsame : c.SameArguments c') (op : Operation) :
    op.invoke ⟨c, parsers⟩ = op.invoke ⟨c', parsers⟩ ∨
      ∃ e e', op.invoke ⟨c, parsers⟩ = .error e ∧ op.invoke ⟨c', parsers⟩ = .error e' ∧
        c.ErrorsMatch c' e e' := by
  rcases Reader.agree_bind hparsers hsame op.slots 0 with
    ⟨bound, q, h, h'⟩ | ⟨e, e', q, h, h', hmatch⟩
  · left
    unfold invoke
    rw [h, h']
  · right
    refine ⟨e, e', ?_, ?_, hmatch⟩
    · unfold invoke
      rw [h]
      rfl
    · unfold invoke
      rw [h']
      rfl

end LineDispatch
