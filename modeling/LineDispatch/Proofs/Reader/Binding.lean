import LineDispatch.ReadStep

/-!
# Binding parameters and reading them

Binding parameters is reading one after the other (`Reader.readAll`), but for a
parameter that no token is left for.  A scalar is bound to nothing then, and so
is a type without a parser, whether it is read or passed over; flags take no
token.  A type with a parser is the exception: binding passes it over, whereas
reading runs the parser, which may do without tokens or fail
(`Reader.slot_of_not_hasNext_iff`).

Binding goes on to give no error once the tokens have run out
(`Reader.bind_of_not_hasNext`), so that the two part for good at the first such
type: they agree just when none comes up behind the last token
(`Reader.bind_eq_readAll_iff`).
-/

namespace LineDispatch.Reader

variable {r : Reader} {p : Nat}

/-- Reads what parameters ask for, one after the other. -/
def readAll (r : Reader) : List Slot → Reading (List (Option Bound))
  | [] => pure []
  | s :: rest => do
    let b ← r.slot s
    let bs ← r.readAll rest
    return b :: bs

/-- Binds one parameter: passes it over if it takes tokens and none is left. -/
def bindSlot (r : Reader) (s : Slot) : Reading (Option Bound) := fun p =>
  if s.takesToken && !r.hasNext p then (.ok none, p) else r.slot s p

/-- Whether each type with a parser comes up while a token is left. -/
def InTime (r : Reader) (slots : List Slot) (p : Nat) : Prop :=
  ∀ front type back values q, slots = front ++ .custom type :: back →
    r.parsers.contains type = true → r.bind front p = (.ok values, q) → r.hasNext q = true

/-! ## Behind the last token -/

theorem getElem?_of_not_hasNext (h : r.hasNext p = false) : r.context.parameters[p]? = none := by
  apply List.getElem?_eq_none
  simpa [hasNext] using h

theorem slot_scalar_of_not_hasNext (h : r.hasNext p = false) (kind : ScalarKind) :
    r.slot (.scalar kind) p = (.ok none, p) := by
  show r.scalar kind p = (.ok none, p)
  rw [scalar, getElem?_of_not_hasNext h]

theorem slot_custom_of_not_contains {type : Text} (h : r.parsers.contains type = false) (p : Nat) :
    r.slot (.custom type) p = (.ok none, p) := by
  have hnone : r.parsers.get? type = none := by simpa [Table.contains] using h
  show r.customWithin r.depth type p = (.ok none, p)
  rw [depth, customWithin, hnone]
  rfl

/-- A parser gives a value or fails. -/
theorem slot_custom_ne_none {type : Text} (h : r.parsers.contains type = true) (p q : Nat) :
    r.slot (.custom type) p ≠ (.ok none, q) := by
  obtain ⟨plan, hplan⟩ := Option.isSome_iff_exists.1 h
  intro hslot
  change r.customWithin r.depth type p = (.ok none, q) at hslot
  rw [depth, customWithin, hplan] at hslot
  obtain ⟨parts, q', -, hparts⟩ := Reading.exists_of_bind_eq_ok hslot
  cases hparts

theorem slot_of_not_hasNext_iff {s : Slot} (htakes : s.takesToken = true)
    (h : r.hasNext p = false) :
    r.slot s p = (.ok none, p) ↔
      ∀ type, s = .custom type → r.parsers.contains type = false := by
  cases s with
  | scalar kind => exact iff_of_true (slot_scalar_of_not_hasNext h kind) nofun
  | flags => cases htakes
  | custom type =>
      cases hparser : r.parsers.contains type with
      | false =>
          refine iff_of_true (slot_custom_of_not_contains hparser p) ?_
          rintro _ ⟨⟩
          exact hparser
      | true =>
          refine iff_of_false (slot_custom_ne_none hparser p p) ?_
          intro hnone
          rw [hnone type rfl] at hparser
          cases hparser

/-! ## One parameter -/

/-- A parameter is passed over where reading would not have given anything either, unless it has a
parser. -/
theorem bindSlot_eq_slot {s : Slot}
    (h : ∀ type, s = .custom type → r.parsers.contains type = true → r.hasNext p = true) :
    r.bindSlot s p = r.slot s p := by
  cases hover : s.takesToken && !r.hasNext p with
  | false => simp [bindSlot, hover]
  | true =>
      obtain ⟨htakes, hnext⟩ : s.takesToken = true ∧ r.hasNext p = false := by simpa using hover
      have hparser : ∀ type, s = .custom type → r.parsers.contains type = false := by
        intro type htype
        rw [← Bool.not_eq_true]
        intro hparser
        rw [h type htype hparser] at hnext
        cases hnext
      rw [(slot_of_not_hasNext_iff htakes hnext).2 hparser]
      simp [bindSlot, hover]

theorem bindSlot_of_not_hasNext (h : r.hasNext p = false) (s : Slot) :
    ∃ b, r.bindSlot s p = (.ok b, p) := by
  cases s with
  | scalar kind | custom type => exact ⟨none, by simp [bindSlot, Slot.takesToken, h]⟩
  | flags => exact ⟨some (.flags r.context.flags), rfl⟩

/-! ## All parameters -/

/-- Reads one value and then the others. -/
def consWith (first : Reading (Option Bound)) (rest : Reading (List (Option Bound))) :
    Reading (List (Option Bound)) := do
  let b ← first
  let bs ← rest
  return b :: bs

section Cons

variable {first : Reading (Option Bound)} {rest rest' : Reading (List (Option Bound))} {q : Nat}
  {b : Option Bound} {bs : List (Option Bound)}

theorem consWith_of_ok {q' : Nat} (hfirst : first p = (.ok b, q)) (hrest : rest q = (.ok bs, q')) :
    consWith first rest p = (.ok (b :: bs), q') := by
  rw [consWith, Reading.bind_of_ok hfirst, Reading.bind_of_ok hrest]
  rfl

theorem exists_of_consWith_eq_ok {values : List (Option Bound)}
    (h : consWith first rest p = (.ok values, q)) :
    ∃ b q' bs, first p = (.ok b, q') ∧ rest q' = (.ok bs, q) ∧ values = b :: bs := by
  obtain ⟨b, q', hfirst, h⟩ := Reading.exists_of_bind_eq_ok h
  obtain ⟨bs, q'', hrest, h⟩ := Reading.exists_of_bind_eq_ok h
  cases h
  exact ⟨b, q', bs, hfirst, hrest, rfl⟩

/-- Behind the same value, two readings agree if and only if they do by themselves. -/
theorem consWith_eq_iff (hfirst : first p = (.ok b, q)) :
    consWith first rest p = consWith first rest' p ↔ rest q = rest' q := by
  unfold consWith
  rw [Reading.bind_of_ok hfirst, Reading.bind_of_ok hfirst]
  simp only [Reading.bind_apply]
  rcases rest q with ⟨_ | _, _⟩ <;> rcases rest' q with ⟨_ | _, _⟩ <;> simp

end Cons

theorem bind_cons (s : Slot) (rest : List Slot) :
    r.bind (s :: rest) = consWith (r.bindSlot s) (r.bind rest) := rfl

theorem readAll_cons (s : Slot) (rest : List Slot) :
    r.readAll (s :: rest) = consWith (r.slot s) (r.readAll rest) := rfl

theorem bind_of_not_hasNext (h : r.hasNext p = false) (slots : List Slot) :
    ∃ values, r.bind slots p = (.ok values, p) := by
  induction slots with
  | nil => exact ⟨[], rfl⟩
  | cons s rest ih =>
      obtain ⟨b, hb⟩ := bindSlot_of_not_hasNext h s
      obtain ⟨bs, hbs⟩ := ih
      exact ⟨b :: bs, consWith_of_ok hb hbs⟩

theorem inTime_nil : r.InTime [] p := by
  intro front type back values q hslots
  simp at hslots

theorem inTime_cons_iff {s : Slot} {rest : List Slot} :
    r.InTime (s :: rest) p ↔
      (∀ type, s = .custom type → r.parsers.contains type = true → r.hasNext p = true) ∧
        ∀ b q, r.bindSlot s p = (.ok b, q) → r.InTime rest q := by
  constructor
  · intro h
    refine ⟨fun type hs hparser => ?_, fun b q hb front type back values q' hrest hparser hq => ?_⟩
    · exact h [] type rest [] p (by rw [hs, List.nil_append]) hparser rfl
    · exact h (s :: front) type back (b :: values) q' (by rw [hrest, List.cons_append]) hparser
        (consWith_of_ok hb hq)
  · rintro ⟨hfirst, hrest⟩ front type back values q hslots hparser hq
    cases front with
    | nil =>
        cases hq
        exact hfirst type (List.cons.inj hslots).1 hparser
    | cons s' front =>
        obtain ⟨rfl, htail⟩ := List.cons.inj hslots
        obtain ⟨b, q', bs, hb, hbs, -⟩ := exists_of_consWith_eq_ok hq
        exact hrest b q' hb front type back bs q htail hparser hbs

/-- At a type with a parser behind the last token the two part: binding gives nothing for it and
goes on without an error, and reading gives a value or an error. -/
theorem bind_ne_readAll {type : Text} (hparser : r.parsers.contains type = true)
    (h : r.hasNext p = false) (rest : List Slot) :
    r.bind (.custom type :: rest) p ≠ r.readAll (.custom type :: rest) p := by
  obtain ⟨values, hvalues⟩ := bind_of_not_hasNext h rest
  have hnone : r.bindSlot (.custom type) p = (.ok none, p) := by
    simp [bindSlot, Slot.takesToken, h]
  have hbind : r.bind (.custom type :: rest) p = (.ok (none :: values), p) :=
    consWith_of_ok hnone hvalues
  intro heq
  rw [hbind] at heq
  obtain ⟨b, q, bs, hb, -, hcons⟩ := exists_of_consWith_eq_ok heq.symm
  rw [← (List.cons.inj hcons).1] at hb
  exact slot_custom_ne_none hparser p q hb

/-- Binding parameters gives what reading them in turn gives, and leaves the cursor there, if and
only if each type with a parser comes up while a token is left; for behind the last token reading
gives nothing and moves nothing at every parameter that takes tokens but these. -/
theorem bind_eq_readAll_iff (r : Reader) :
    (∀ slots p, r.bind slots p = r.readAll slots p ↔ r.InTime slots p) ∧
      ∀ s p, s.takesToken = true → r.hasNext p = false →
        (r.slot s p = (.ok none, p) ↔
          ∀ type, s = .custom type → r.parsers.contains type = false) := by
  refine ⟨fun slots p => ?_, fun s p htakes h => slot_of_not_hasNext_iff htakes h⟩
  induction slots generalizing p with
  | nil => exact iff_of_true rfl inTime_nil
  | cons s rest ih =>
      rw [inTime_cons_iff]
      by_cases hfirst : ∀ type, s = .custom type → r.parsers.contains type = true →
          r.hasNext p = true
      -- The first parameter is read in both cases, and the others from the same cursor.
      · rw [and_iff_right hfirst]
        have hslot := bindSlot_eq_slot hfirst
        rcases hb : r.bindSlot s p with ⟨e | b, q⟩
        · rw [hb] at hslot
          rw [bind_cons, readAll_cons, consWith, consWith, Reading.bind_of_error hb,
            Reading.bind_of_error hslot.symm]
          exact iff_of_true rfl nofun
        · rw [hb] at hslot
          have hsame : consWith (r.slot s) (r.readAll rest) p =
              consWith (r.bindSlot s) (r.readAll rest) p := by
            unfold consWith
            rw [Reading.bind_of_ok hb, Reading.bind_of_ok hslot.symm]
          rw [bind_cons, readAll_cons, hsame, consWith_eq_iff hb, ih q]
          constructor
          · rintro hq _ _ ⟨⟩
            exact hq
          · intro hall
            exact hall b q rfl
      · simp only [Classical.not_forall] at hfirst
        obtain ⟨type, rfl, hparser, hnext⟩ := hfirst
        rw [Bool.not_eq_true] at hnext
        refine iff_of_false (bind_ne_readAll hparser hnext rest) ?_
        rintro ⟨htime, -⟩
        rw [htime type rfl hparser] at hnext
        cases hnext

/-! ## A parser that does without tokens -/

/-- A parser that takes one word, if there is one. -/
def wordParsers : TypeParsers := Table.insert {} "Words" (ReadStep.parser [.token])

/-- With a token for each parameter, reading and binding are the same. -/
theorem bind_eq_readAll_wordParsers :
    let r : Reader := ⟨{ parameters := ["a", "7"] }, wordParsers⟩
    let slots : List Slot := [.custom "Words", .scalar (.integer .i32), .scalar .string]
    r.InTime slots 0 ∧ r.bind slots 0 = r.readAll slots 0 := by
  intro r slots
  have htime : r.InTime slots 0 := by
    refine inTime_cons_iff.2 ⟨fun _ _ _ => rfl, fun b q _ => ?_⟩
    refine inTime_cons_iff.2 ⟨nofun, fun b q _ => ?_⟩
    exact inTime_cons_iff.2 ⟨nofun, fun b q _ => inTime_nil⟩
  exact ⟨htime, ((bind_eq_readAll_iff r).1 slots 0).2 htime⟩

/-- Without a token, the type is bound to nothing, and reading it gives a value. -/
theorem bind_ne_readAll_wordParsers :
    let r : Reader := { context := {}, parsers := wordParsers }
    r.hasNext 0 = false ∧ r.bind [.custom "Words"] 0 ≠ r.readAll [.custom "Words"] 0 ∧
      r.slot (.custom "Words") 0 = (.ok (some (.custom "Words" [.text "none"])), 0) := by
  decide +kernel

end LineDispatch.Reader
