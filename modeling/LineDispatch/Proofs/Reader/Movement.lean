import LineDispatch.Proofs.Reader.Binding
import LineDispatch.Proofs.Reader.Nesting
import LineDispatch.ReadStep

/-!
# How the cursor moves

A reader may be used for any calls in a row: reads, looks at the call, and
binding parameters, one going on where another has stopped, with a result or
with an error.  `Reader.history` lists the cursors that come up on the way:
before each call, at each parameter that is bound, and at all points of the
parsers that are run.  None of them lies behind the parameters, and each is at
least as far as the one before it (`Reader.keeps_history`).

How far a single call moves the cursor is said call by call
(`Reader.cursor_outcome`).  A parser that is a script moves it by its steps, up
to the first that fails (`ReadStep.reached`), and reading its type moves it
just as far.
-/

namespace LineDispatch

/-! ## Scripts -/

/-- Behind a request that can fail one plan comes after another as at its start. -/
theorem ReadPlan.onward_bind {α β γ : Type} (next : γ → ReadPlan α)
    (rescue : CommandError → ReadPlan α) (f : α → ReadPlan β) (answer : Except CommandError γ) :
    onward next rescue answer >>= f =
      onward (fun b => next b >>= f) (fun e => rescue e >>= f) answer := by
  cases answer <;> rfl

namespace Reader

open ReadPlan

variable {α β : Type} {r : Reader} {custom : Text → Reading (Option Bound)}

/-- Following one plan after another follows the first and then the other. -/
theorem followWith_bind (plan : ReadPlan α) (f : α → ReadPlan β) (p : Nat) :
    r.followWith custom (plan >>= f) p =
      (r.followWith custom plan >>= fun a => r.followWith custom (f a)) p := by
  induction plan using induction_onward generalizing p with
  | done | fail | pass => rfl
  | read type next rescue ih =>
      have hnext := ih (r.argumentWith custom type p).1 (r.argumentWith custom type p).2
      rw [Reading.bind_apply, followWith_read, ← Reading.bind_apply, ← hnext, onward_bind]
      exact followWith_read
  | flag type key next rescue ih =>
      have hnext := ih (r.flag type key) p
      rw [Reading.bind_apply, followWith_flag, ← Reading.bind_apply, ← hnext, onward_bind]
      exact followWith_flag
  | token next ih =>
      have hnext := ih r.context.parameters[p]? (r.token p).2
      rw [Reading.bind_apply, followWith_token, ← Reading.bind_apply, ← hnext]
      exact followWith_token
  | position next ih | parameters next ih | flags next ih | tokens next ih => exact ih _ p

end Reader

namespace ReadStep

/-- The cursor after a script that ends with the first step that fails. -/
def reached (r : Reader) : List ReadStep → Nat → Nat
  | [], p => p
  | step :: rest, p =>
    match r.follow step.plan p with
    | (.ok _, q) => reached r rest q
    | (.error _, q) => q

theorem parser_cursor (r : Reader) (steps : List ReadStep) (p : Nat) :
    (r.follow (parser steps) p).2 = reached r steps p := by
  induction steps generalizing p with
  | nil => rfl
  | cons step rest ih =>
      have hparser : r.follow (parser (step :: rest)) p = (r.follow step.plan >>= fun text =>
          r.follow (parser rest >>= fun parts => pure (.text (text.getD "none") :: parts))) p :=
        Reader.followWith_bind step.plan _ p
      rw [hparser, reached]
      rcases hm : r.follow step.plan p with ⟨e | text, q⟩
      · rw [Reading.bind_of_error hm]
      · have hrest : r.follow (parser rest >>= fun parts =>
            pure (.text (text.getD "none") :: parts)) q = (r.follow (parser rest) >>= fun parts =>
              pure (.text (text.getD "none") :: parts)) q :=
          Reader.followWith_bind (parser rest) _ q
        rw [Reading.bind_of_ok hm, hrest, Reader.bind_pure_cursor]
        exact ih q

/-- A flag is read without a look at the cursor. -/
theorem flag_cursor (r : Reader) (type : ArgumentType) (key : Text) (p : Nat) :
    (r.follow (ReadStep.flag type key).plan p).2 = p := by
  simp only [Reader.follow, plan, Reader.followWith, Reading.handle, Reading.give_apply]
  cases r.flag type key <;> rfl

end ReadStep

namespace Reader

variable {r : Reader} {p : Nat}

/-! ## Calls in a row -/

/-- What is done with a reader: one read, one step of a script, or binding parameters. -/
inductive Call
  | read (slot : Slot)
  | step (step : ReadStep)
  | bind (slots : List Slot)

/-- The cursors inside reading what a parameter asks for. -/
def inside (r : Reader) (s : Slot) (p : Nat) : List Nat :=
  s.asks.elim [] fun type => r.cursorsWithin r.depth type p

/-- The cursors at the parameters that are bound, and inside what is read for them. -/
def bindCursors (r : Reader) : List Slot → Nat → List Nat
  | [], p => [p]
  | s :: rest, p =>
    p :: (if s.takesToken && !r.hasNext p then [] else r.inside s p) ++
      match r.bindSlot s p with
      | (.ok _, q) => r.bindCursors rest q
      | (.error _, q) => [q]

namespace Call

/-- The cursor after a call. -/
def after (r : Reader) : Call → Nat → Nat
  | .read s, p => (r.slot s p).2
  | .step s, p => (r.follow s.plan p).2
  | .bind slots, p => (r.bind slots p).2

/-- The cursors that come up in a call. -/
def cursors (r : Reader) : Call → Nat → List Nat
  | .read s, p => p :: r.inside s p
  | .step s, p =>
    (r.points r.custom s.plan p).flatMap (Point.cursors (r.cursorsWithin r.depth))
  | .bind slots, p => r.bindCursors slots p

end Call

/-- The cursors that come up in calls in a row, and the last one. -/
def history (r : Reader) : List Call → Nat → List Nat
  | [], p => [p]
  | call :: rest, p => call.cursors r p ++ r.history rest (call.after r p)

theorem keeps_custom (r : Reader) (type : Text) :
    r.Keeps (r.custom type) (r.cursorsWithin r.depth type) :=
  r.keeps_customWithin r.depth type

theorem keeps_slot (r : Reader) (s : Slot) : r.Keeps (r.slot s) (r.inside s) :=
  keeps_slotWith r.keeps_custom s

theorem keeps_bindSlot (r : Reader) (s : Slot) :
    r.Keeps (r.bindSlot s) fun p => if s.takesToken && !r.hasNext p then [] else r.inside s p := by
  intro p hp
  unfold bindSlot
  dsimp only
  split
  · exact ⟨climbs_nil (Nat.le_refl p), hp⟩
  · exact r.keeps_slot s p hp

theorem keeps_bind (r : Reader) (slots : List Slot) :
    r.Keeps (r.bind slots) (r.bindCursors slots) := by
  induction slots with
  | nil => exact fun p hp => ⟨climbs_self p, hp⟩
  | cons s rest ih =>
      intro p hp
      obtain ⟨hfirst, hq⟩ := r.keeps_bindSlot s p hp
      rw [bind_cons, bindCursors]
      -- Binding stops at the first parameter that fails, where the cursor then stands.
      rcases hm : r.bindSlot s p with ⟨e | b, q⟩
      · rw [hm] at hfirst hq
        have hstop : consWith (r.bindSlot s) (r.bind rest) p = (.error e, q) :=
          Reading.bind_of_error hm _
        rw [hstop]
        exact ⟨hfirst.cons.append (climbs_self q), hq⟩
      · rw [hm] at hfirst hq
        obtain ⟨hrest, hend⟩ := ih q hq
        have hgo : (consWith (r.bindSlot s) (r.bind rest) p).2 = (r.bind rest q).2 := by
          rw [consWith, Reading.bind_of_ok hm]
          exact bind_pure_cursor _ _ q
        rw [hgo]
        exact ⟨hfirst.cons.append hrest, hend⟩

/-- What one call does to the cursor. -/
theorem keeps_call (r : Reader) (call : Call) (hp : p ≤ r.context.parameters.length) :
    Climbs p (call.cursors r p) (call.after r p) ∧
      call.after r p ≤ r.context.parameters.length := by
  cases call with
  | read s =>
      obtain ⟨hread, hend⟩ := r.keeps_slot s p hp
      exact ⟨hread.cons, hend⟩
  | step s => exact keeps_followWith r.keeps_custom s.plan p hp
  | bind slots => exact r.keeps_bind slots p hp

/-- What calls in a row do to the cursor, by induction on the calls. -/
theorem keeps_history (r : Reader) (calls : List Call) (hp : p ≤ r.context.parameters.length) :
    ∃ q, Climbs p (r.history calls p) q ∧ q ≤ r.context.parameters.length := by
  induction calls generalizing p with
  | nil => exact ⟨p, climbs_self p, hp⟩
  | cons call rest ih =>
      obtain ⟨hcall, hq⟩ := r.keeps_call call hp
      obtain ⟨q, hrest, hend⟩ := ih hq
      exact ⟨q, hcall.append hrest, hend⟩

/-! ## The outcome -/

theorem slot_cursor_eq_follow {type : Text} {plan : TypeParser}
    (hp : p ≤ r.context.parameters.length) (hparser : r.parsers.get? type = some plan)
    (h : r.Ends type p) : (r.slot (.custom type) p).2 = (r.follow plan p).2 := by
  show (r.custom type p).2 = (r.follow plan p).2
  rw [custom_eq hp hparser h]
  exact bind_pure_cursor _ _ p

/-- The cursor of a reader stays among the parameters, never goes down, and moves only so: reading
a scalar or a token moves it by one if one is left, and not otherwise, whether the token fits or
not; reading flags, a type without a parser or the value of a flag does not move it; and reading
another type, as long as it ends, moves it as its parser does, by the steps of a script up to the
first that fails. -/
theorem cursor_outcome (r : Reader) (hp : p ≤ r.context.parameters.length) :
    (∀ calls, (r.history calls p).Pairwise (· ≤ ·) ∧
      ∀ q ∈ r.history calls p, p ≤ q ∧
        q + r.remaining q = r.context.parameters.length ∧
        (r.hasNext q = true ↔ 0 < r.remaining q)) ∧
    (∀ kind, (r.slot (.scalar kind) p).2 = if r.hasNext p then p + 1 else p) ∧
    ((r.token p).2 = if r.hasNext p then p + 1 else p) ∧
    (∀ type, (r.argument type p).2 = (r.slot type.slot p).2) ∧
    (r.slot .flags p).2 = p ∧
    (∀ type, r.parsers.contains type = false → (r.slot (.custom type) p).2 = p) ∧
    (∀ type key, (r.follow (ReadStep.flag type key).plan p).2 = p) ∧
    ∀ type plan, r.parsers.get? type = some plan → r.Ends type p →
      (r.slot (.custom type) p).2 = (r.follow plan p).2 ∧
      (∀ steps, plan = ReadStep.parser steps →
        (r.slot (.custom type) p).2 = ReadStep.reached r steps p) ∧
      ∀ x ∈ r.points r.custom plan p, x.cursor ≤ r.context.parameters.length ∧
        ∀ t ∈ x.asks, r.Ends t x.cursor := by
  refine ⟨fun calls => ?_, fun kind => r.scalar_cursor kind p, r.token_cursor p,
    fun type => r.argumentWith_cursor r.custom type p, rfl, fun type hnone => ?_,
    fun type key => ReadStep.flag_cursor r type key p, fun type plan hparser hends => ⟨?_, ?_, ?_⟩⟩
  · obtain ⟨stop, hclimbs, hstop⟩ := r.keeps_history calls hp
    refine ⟨hclimbs.sorted, fun q hq => ⟨hclimbs.ge_start q hq, ?_, ?_⟩⟩
    · have hle := Nat.le_trans (hclimbs.le_stop q hq) hstop
      exact Nat.add_sub_cancel' hle
    · rw [hasNext, remaining, decide_eq_true_iff]
      exact Nat.sub_pos_iff_lt.symm
  · rw [slot_custom_of_not_contains hnone p]
  · exact slot_cursor_eq_follow hp hparser hends
  · rintro steps rfl
    rw [slot_cursor_eq_follow hp hparser hends, ReadStep.parser_cursor]
  · exact fun x hx => ⟨cursor_le_of_mem_points hp hx, (ends_iff hp hparser).1 hends x hx⟩

/-- A parser of boxes, which hold a word, a pair of a word and a number, and another word. -/
def boxParsers : TypeParsers :=
  Table.ofList [("Box", ReadStep.parser [.token, .read (.custom "Pair"), .token]),
    ("Pair", ReadStep.parser [.token, .read (.scalar (.integer .i32))])]

/-- A box whose pair has no number: the pair fails behind the word in the place of its number, and
the box with it, so that the last word is left. -/
theorem cursor_outcome_boxParsers :
    let r : Reader := ⟨{ parameters := ["a", "b", "c", "d"] }, boxParsers⟩
    0 ≤ r.context.parameters.length ∧ r.Ends "Box" 0 ∧ (r.slot (.custom "Box") 0).2 = 3 ∧
      r.history [.read (.custom "Box"), .bind [.scalar .string]] 0 =
        [0, 0, 1, 1, 2, 3, 3, 3, 4, 4] := by
  intro r
  have hbox : r.parsers.get? "Box" =
      some (ReadStep.parser [.token, .read (.custom "Pair"), .token]) := rfl
  have hends : r.Ends "Box" 0 := ⟨2, by decide +kernel⟩
  obtain ⟨-, -, -, -, -, -, -, hcustom⟩ := r.cursor_outcome (Nat.zero_le _)
  obtain ⟨-, hsteps, -⟩ := hcustom "Box" _ hbox hends
  refine ⟨Nat.zero_le _, hends, ?_, by decide +kernel⟩
  rw [hsteps _ rfl]
  decide +kernel

end Reader

end LineDispatch
