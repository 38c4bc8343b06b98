import LineDispatch.Reader

/-!
# The cursor along a run

A run follows a plan: it answers one request after the other, each at the
cursor that the answers before it have left.  `Reader.points` lists the
requests that a run comes to, with the cursor at each and the custom type that
it reads, if it reads one.  Such a type is read by a run of its own, and
`Reader.cursorsWithin` lists the cursors of that run and of all runs inside it
in the order in which they come up.

A request for a scalar or for a token moves the cursor to the next parameter,
if there is one, and no other request moves it but through these.  So the
cursor of a run never goes down and never leaves the parameters (`Keeps`), by
induction on the plan and on how deep parsers may still be within parsers.
-/

namespace LineDispatch

/-- The custom type that is read, if one is. -/
def Slot.asks : Slot → Option Text
  | .custom type => some type
  | _ => none

namespace ReadPlan

variable {α β : Type}

/-- The rest of a plan behind a request that can fail. -/
def onward (next : β → ReadPlan α) (rescue : CommandError → ReadPlan α) :
    Except CommandError β → ReadPlan α
  | .ok b => next b
  | .error e => rescue e

/-- Induction over a plan in which what follows a read that fails is like what follows one that
does not. -/
theorem induction_onward {motive : ReadPlan α → Prop} (done : ∀ result, motive (.done result))
    (fail : ∀ message, motive (.fail message)) (pass : ∀ error, motive (.pass error))
    (read : ∀ type next rescue, (∀ answer, motive (onward next rescue answer)) →
      motive (.read type next rescue))
    (flag : ∀ type key next rescue, (∀ answer, motive (onward next rescue answer)) →
      motive (.flag type key next rescue))
    (token : ∀ next, (∀ t, motive (next t)) → motive (.token next))
    (position : ∀ next, (∀ n, motive (next n)) → motive (.position next))
    (parameters : ∀ next, (∀ ps, motive (next ps)) → motive (.parameters next))
    (flags : ∀ next, (∀ flags, motive (next flags)) → motive (.flags next))
    (tokens : ∀ next, (∀ ts, motive (next ts)) → motive (.tokens next)) (plan : ReadPlan α) :
    motive plan := by
  induction plan with
  | done result => exact done result
  | fail message => exact fail message
  | pass error => exact pass error
  | read type next rescue ih ihRescue =>
      apply read
      rintro (e | a)
      · exact ihRescue e
      · exact ih a
  | flag type key next rescue ih ihRescue =>
      apply flag
      rintro (e | a)
      · exact ihRescue e
      · exact ih a
  | token next ih => exact token next ih
  | position next ih => exact position next ih
  | parameters next ih => exact parameters next ih
  | flags next ih => exact flags next ih
  | tokens next ih => exact tokens next ih

end ReadPlan

namespace Reader

open ReadPlan

variable {α : Type} {r : Reader} {custom : Text → Reading (Option Bound)}

/-! ## One read -/

theorem token_cursor (r : Reader) (p : Nat) :
    (r.token p).2 = if r.hasNext p then p + 1 else p := by
  by_cases h : p < r.context.parameters.length <;> simp [token, hasNext, h]

theorem scalar_cursor (r : Reader) (kind : ScalarKind) (p : Nat) :
    (r.scalar kind p).2 = if r.hasNext p then p + 1 else p := by
  by_cases h : p < r.context.parameters.length
  · simp only [scalar, hasNext, List.getElem?_eq_getElem h]
    -- The token stays taken when it does not fit.
    cases kind.coerce (r.context.parameters[p]) <;> simp [h]
  · simp [scalar, hasNext, h]

/-- Taking the value out at its type moves nothing, whether it fits or not. -/
theorem argumentWith_cursor (r : Reader) (custom : Text → Reading (Option Bound))
    (type : ArgumentType) (p : Nat) :
    (r.argumentWith custom type p).2 = (r.slotWith custom type.slot p).2 := by
  unfold argumentWith
  rcases r.slotWith custom type.slot p with ⟨e | b | b, q⟩ <;> rfl

theorem bind_pure_cursor {β : Type} (m : Reading α) (f : α → β) (p : Nat) :
    ((m >>= fun a => pure (f a)) p).2 = (m p).2 := by
  rw [Reading.bind_apply]
  rcases m p with ⟨e | a, q⟩ <;> rfl

/-! ## The requests of a run -/

/-- A point of a run: the cursor at a request or at the end, and the custom type that the request
reads, if it reads one. -/
structure Point where
  cursor : Nat
  asks : Option Text := none
deriving DecidableEq

/-- The points that following a plan comes to, custom types read by the given reading. -/
def points (r : Reader) (custom : Text → Reading (Option Bound)) :
    ReadPlan α → Nat → List Point
  | .done _, p | .fail _, p | .pass _, p => [{ cursor := p }]
  | .read type next rescue, p =>
    { cursor := p, asks := type.slot.asks } :: match r.argumentWith custom type p with
      | (.ok a, q) => r.points custom (next a) q
      | (.error e, q) => r.points custom (rescue e) q
  | .flag type key next rescue, p =>
    { cursor := p } :: match r.flag type key with
      | .ok a => r.points custom (next a) p
      | .error e => r.points custom (rescue e) p
  | .token next, p =>
    { cursor := p } :: r.points custom (next r.context.parameters[p]?) (r.token p).2
  | .position next, p => { cursor := p } :: r.points custom (next p) p
  | .parameters next, p => { cursor := p } :: r.points custom (next r.context.parameters) p
  | .flags next, p => { cursor := p } :: r.points custom (next r.context.flags) p
  | .tokens next, p => { cursor := p } :: r.points custom (next r.context.tokens) p

section Requests

variable {next : Option Argument → ReadPlan α} {rescue : CommandError → ReadPlan α}
  {type : ArgumentType} {key : Text} {p : Nat}

/-- Behind a read a run goes on from where the read has left the cursor, whether it failed or
not. -/
theorem followWith_read :
    r.followWith custom (.read type next rescue) p =
      r.followWith custom (onward next rescue (r.argumentWith custom type p).1)
        (r.argumentWith custom type p).2 := by
  simp only [followWith, Reading.handle]
  rcases r.argumentWith custom type p with ⟨e | a, q⟩ <;> rfl

theorem points_read :
    r.points custom (.read type next rescue) p =
      { cursor := p, asks := type.slot.asks } ::
        r.points custom (onward next rescue (r.argumentWith custom type p).1)
          (r.argumentWith custom type p).2 := by
  rw [points]
  rcases r.argumentWith custom type p with ⟨e | a, q⟩ <;> rfl

theorem followWith_flag :
    r.followWith custom (.flag type key next rescue) p =
      r.followWith custom (onward next rescue (r.flag type key)) p := by
  simp only [followWith, Reading.handle, Reading.give_apply]
  cases r.flag type key <;> rfl

theorem points_flag :
    r.points custom (.flag type key next rescue) p =
      { cursor := p } :: r.points custom (onward next rescue (r.flag type key)) p := by
  rw [points]
  cases r.flag type key <;> rfl

theorem followWith_token {next : Option Text → ReadPlan α} :
    r.followWith custom (.token next) p =
      r.followWith custom (next r.context.parameters[p]?) (r.token p).2 := by
  show (r.token >>= fun t => r.followWith custom (next t)) p = _
  cases h : r.context.parameters[p]? <;> simp [Reading.bind_apply, token, h]

end Requests

/-- The cursors at a point: that of the request, and those `inside` what it reads. -/
def Point.cursors (inside : Text → Nat → List Nat) (x : Point) : List Nat :=
  x.cursor :: x.asks.elim [] fun type => inside type x.cursor

/-- The cursors at all points of reading a custom type, parsers within parsers to a bounded
depth. -/
def cursorsWithin (r : Reader) : Nat → Text → Nat → List Nat
  | 0, _, _ => []
  | depth + 1, type, p =>
    match r.parsers.get? type with
    | none => []
    | some plan =>
      (r.points (r.customWithin depth) plan p).flatMap (Point.cursors (r.cursorsWithin depth))

/-! ## Cursors that never go down -/

/-- Whether the cursor goes from `p` to `q` over `cursors`, at no time down. -/
structure Climbs (p : Nat) (cursors : List Nat) (q : Nat) : Prop where
  sorted : cursors.Pairwise (· ≤ ·)
  ge_start : ∀ c ∈ cursors, p ≤ c
  le_stop : ∀ c ∈ cursors, c ≤ q
  le : p ≤ q

section Climbs

variable {p q s : Nat} {cursors more : List Nat}

theorem climbs_nil (h : p ≤ q) : Climbs p [] q :=
  ⟨.nil, by simp, by simp, h⟩

theorem Climbs.append (h : Climbs p cursors q) (hmore : Climbs q more s) :
    Climbs p (cursors ++ more) s := by
  refine ⟨List.pairwise_append.2 ⟨h.sorted, hmore.sorted, fun c hc d hd => ?_⟩, ?_, ?_,
    Nat.le_trans h.le hmore.le⟩
  · exact Nat.le_trans (h.le_stop c hc) (hmore.ge_start d hd)
  · intro c hc
    rcases List.mem_append.1 hc with hc | hc
    · exact h.ge_start c hc
    · exact Nat.le_trans h.le (hmore.ge_start c hc)
  · intro c hc
    rcases List.mem_append.1 hc with hc | hc
    · exact Nat.le_trans (h.le_stop c hc) hmore.le
    · exact hmore.le_stop c hc

/-- A climb may count the cursor that it starts from. -/
theorem Climbs.cons (h : Climbs p cursors q) : Climbs p (p :: cursors) q := by
  refine ⟨List.pairwise_cons.2 ⟨h.ge_start, h.sorted⟩, ?_, ?_, h.le⟩
  · intro c hc
    rcases List.mem_cons.1 hc with rfl | hc
    · exact Nat.le_refl c
    · exact h.ge_start c hc
  · intro c hc
    rcases List.mem_cons.1 hc with rfl | hc
    · exact h.le
    · exact h.le_stop c hc

theorem climbs_self (p : Nat) : Climbs p [p] p := (climbs_nil (Nat.le_refl p)).cons

end Climbs

/-- Whether a reading that passes over the given cursors keeps the cursor among the parameters and
takes it over them at no time down. -/
def Keeps (r : Reader) (m : Reading α) (cursors : Nat → List Nat) : Prop :=
  ∀ p, p ≤ r.context.parameters.length →
    Climbs p (cursors p) (m p).2 ∧ (m p).2 ≤ r.context.parameters.length

/-- The cursor behind a token that is taken, if there is one. -/
theorem climbs_next {p : Nat} (hp : p ≤ r.context.parameters.length) :
    Climbs p [] (if r.hasNext p then p + 1 else p) ∧
      (if r.hasNext p then p + 1 else p) ≤ r.context.parameters.length := by
  by_cases h : p < r.context.parameters.length
  · simp only [hasNext, h, decide_true, if_true]
    exact ⟨climbs_nil (Nat.le_succ p), h⟩
  · simp only [hasNext, h, decide_false, Bool.false_eq_true, if_false]
    exact ⟨climbs_nil (Nat.le_refl p), hp⟩

theorem keeps_pure (a : α) : r.Keeps (pure a) fun _ => [] :=
  fun p hp => ⟨climbs_nil (Nat.le_refl p), hp⟩

section Keeps

variable {inside : Text → Nat → List Nat} (hcustom : ∀ type, r.Keeps (custom type) (inside type))

include hcustom

theorem keeps_slotWith (s : Slot) :
    r.Keeps (r.slotWith custom s) fun p => s.asks.elim [] fun type => inside type p := by
  cases s with
  | scalar kind =>
      intro p hp
      show Climbs p [] (r.scalar kind p).2 ∧ (r.scalar kind p).2 ≤ _
      rw [scalar_cursor]
      exact climbs_next hp
  | custom type => exact hcustom type
  | flags => exact keeps_pure _

theorem keeps_argumentWith (type : ArgumentType) :
    r.Keeps (r.argumentWith custom type) fun p => type.slot.asks.elim [] fun t => inside t p := by
  intro p hp
  rw [argumentWith_cursor]
  exact keeps_slotWith hcustom type.slot p hp

/-- The points of a run climb from its start to where it leaves the cursor. -/
theorem keeps_followWith (plan : ReadPlan α) :
    r.Keeps (r.followWith custom plan) fun p =>
      (r.points custom plan p).flatMap (Point.cursors inside) := by
  induction plan using induction_onward with
  | done a | fail message | pass e => exact fun p hp => ⟨climbs_self p, hp⟩
  | read type next rescue ih =>
      intro p hp
      obtain ⟨hread, hq⟩ := keeps_argumentWith hcustom type p hp
      obtain ⟨hrest, hend⟩ := ih (r.argumentWith custom type p).1 _ hq
      simp only [followWith_read, points_read]
      exact ⟨hread.cons.append hrest, hend⟩
  | flag type key next rescue ih =>
      intro p hp
      obtain ⟨hrest, hend⟩ := ih (r.flag type key) p hp
      simp only [followWith_flag, points_flag]
      exact ⟨(climbs_self p).append hrest, hend⟩
  | token next ih =>
      intro p hp
      obtain ⟨htoken, hq⟩ := climbs_next hp
      rw [← token_cursor] at htoken hq
      obtain ⟨hrest, hend⟩ := ih r.context.parameters[p]? _ hq
      rw [followWith_token]
      exact ⟨htoken.cons.append hrest, hend⟩
  | position next ih | parameters next ih | flags next ih | tokens next ih =>
      exact fun p hp => ⟨(climbs_self p).append (ih _ p hp).1, (ih _ p hp).2⟩

end Keeps

/-- By induction on how deep parsers may still be within parsers. -/
theorem keeps_customWithin (r : Reader) (depth : Nat) (type : Text) :
    r.Keeps (r.customWithin depth type) (r.cursorsWithin depth type) := by
  induction depth generalizing type with
  | zero => exact fun p hp => ⟨climbs_nil (Nat.le_refl p), hp⟩
  | succ depth ih =>
      intro p hp
      unfold customWithin cursorsWithin
      cases hparser : r.parsers.get? type with
      | none => exact keeps_pure none p hp
      | some plan =>
          dsimp only
          rw [bind_pure_cursor]
          exact keeps_followWith ih plan p hp

theorem cursor_le_of_mem_points {plan : ReadPlan α} {depth p : Nat} {x : Point}
    (hp : p ≤ r.context.parameters.length) (hx : x ∈ r.points (r.customWithin depth) plan p) :
    x.cursor ≤ r.context.parameters.length := by
  obtain ⟨hrun, hend⟩ := keeps_followWith (r.keeps_customWithin depth) plan p hp
  have hmem : x.cursor ∈ (r.points (r.customWithin depth) plan p).flatMap
      (Point.cursors (r.cursorsWithin depth)) :=
    List.mem_flatMap.2 ⟨x, hx, List.mem_cons_self⟩
  exact Nat.le_trans (hrun.le_stop _ hmem) hend

end Reader

end LineDispatch
