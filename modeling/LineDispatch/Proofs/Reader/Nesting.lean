import LineDispatch.Proofs.Reader.Cursor
import Mathlib.Data.Finset.Prod
import Mathlib.Data.Nat.Find

/-!
# Parsers within parsers

`Reader.custom` runs parsers within parsers to a depth that the reader fixes in
advance.  This file proves that the depth is no restriction: wherever reading a
custom type comes to an end at all (`Ends`), it does so within that depth
(`endsWithin_depth`), so that the type is read by its parser, and every custom
type inside it by the parser of that type (`custom_eq`).

A run looks at the reading of custom types only where it asks for one
(`followWith_congr`), hence a run that ends within some depth is the same at any
greater one (`customWithin_succ_eq`).  Let now a run end within some depth and
no less.  Then it asks for one that ends within one less and no less, and so on
(`exists_endsBeyond_of_succ`): each depth below comes with a type and a cursor of
its own.  Types without a parser end at once, so these types have parsers, and
there are only as many pairs of such a type and a cursor as `Reader.depth`
counts.
-/

namespace LineDispatch.Reader

open ReadPlan

variable {α : Type} {r : Reader} {custom custom' : Text → Reading (Option Bound)}
  {type : Text} {depth p : Nat}

/-! ## What a run depends on -/

theorem argumentWith_congr {type : ArgumentType}
    (h : ∀ t ∈ type.slot.asks, custom t p = custom' t p) :
    r.argumentWith custom type p = r.argumentWith custom' type p := by
  have hslot : r.slotWith custom type.slot p = r.slotWith custom' type.slot p := by
    cases hs : type.slot with
    | scalar kind | flags => rfl
    | custom t => exact h t (by rw [hs]; rfl)
  unfold argumentWith
  rw [hslot]

/-- Readings of custom types that agree wherever a run asks for one make the same run. -/
theorem followWith_congr (plan : ReadPlan α)
    (h : ∀ x ∈ r.points custom plan p, ∀ t ∈ x.asks, custom t x.cursor = custom' t x.cursor) :
    r.followWith custom plan p = r.followWith custom' plan p ∧
      r.points custom plan p = r.points custom' plan p := by
  induction plan using induction_onward generalizing p with
  | done | fail | pass => exact ⟨rfl, rfl⟩
  | read type next rescue ih =>
      rw [points_read, List.forall_mem_cons] at h
      have hread := argumentWith_congr (r := r) h.1
      obtain ⟨hrun, hpoints⟩ := ih _ h.2
      rw [followWith_read, points_read, followWith_read, points_read, ← hread]
      exact ⟨hrun, congrArg _ hpoints⟩
  | flag type key next rescue ih =>
      rw [points_flag, List.forall_mem_cons] at h
      obtain ⟨hrun, hpoints⟩ := ih _ h.2
      rw [followWith_flag, points_flag, followWith_flag, points_flag]
      exact ⟨hrun, congrArg _ hpoints⟩
  | token next ih =>
      simp only [points, List.forall_mem_cons] at h
      obtain ⟨hrun, hpoints⟩ := ih _ h.2
      rw [followWith_token, followWith_token]
      exact ⟨hrun, congrArg _ hpoints⟩
  | position next ih | parameters next ih | flags next ih | tokens next ih =>
      simp only [points, List.forall_mem_cons] at h
      obtain ⟨hrun, hpoints⟩ := ih _ h.2
      exact ⟨hrun, congrArg _ hpoints⟩

/-! ## Reads that end -/

/-- Whether reading a custom type comes to an end with parsers within parsers to the given
depth. -/
def EndsWithin (r : Reader) : Nat → Text → Nat → Prop
  | 0, _, _ => False
  | depth + 1, type, p =>
    match r.parsers.get? type with
    | none => True
    | some plan =>
      ∀ x ∈ r.points (r.customWithin depth) plan p, ∀ t ∈ x.asks, r.EndsWithin depth t x.cursor

/-- Whether reading a custom type comes to an end. -/
def Ends (r : Reader) (type : Text) (p : Nat) : Prop := ∃ depth, r.EndsWithin depth type p

theorem endsWithin_of_none (hparser : r.parsers.get? type = none) (depth p : Nat) :
    r.EndsWithin (depth + 1) type p := by
  rw [EndsWithin, hparser]
  trivial

theorem endsWithin_succ_iff {plan : TypeParser} (hparser : r.parsers.get? type = some plan) :
    r.EndsWithin (depth + 1) type p ↔
      ∀ x ∈ r.points (r.customWithin depth) plan p, ∀ t ∈ x.asks,
        r.EndsWithin depth t x.cursor := by
  rw [EndsWithin, hparser]

instance decidableEndsWithin (r : Reader) :
    (depth : Nat) → (type : Text) → (p : Nat) → Decidable (r.EndsWithin depth type p)
  | 0, _, _ => inferInstanceAs (Decidable False)
  | depth + 1, type, p =>
    match hparser : r.parsers.get? type with
    | none => .isTrue (endsWithin_of_none hparser depth p)
    | some _ =>
      have := r.decidableEndsWithin depth
      decidable_of_iff' _ (endsWithin_succ_iff hparser)

theorem customWithin_of_some {plan : TypeParser} (hparser : r.parsers.get? type = some plan)
    (depth : Nat) :
    r.customWithin (depth + 1) type = (do
      let parts ← r.followWith (r.customWithin depth) plan
      return some (.custom type parts)) := by
  rw [customWithin, hparser]

/-- A read that ends within a depth is the same at the next one, and ends within it. -/
theorem customWithin_succ_eq (h : r.EndsWithin depth type p) :
    r.customWithin depth type p = r.customWithin (depth + 1) type p ∧
      r.EndsWithin (depth + 1) type p := by
  induction depth generalizing type p with
  | zero => exact h.elim
  | succ depth ih =>
      cases hparser : r.parsers.get? type with
      | none => exact ⟨by rw [customWithin, customWithin, hparser], endsWithin_of_none hparser _ _⟩
      | some plan =>
          have hinner := (endsWithin_succ_iff hparser).1 h
          obtain ⟨hrun, hpoints⟩ := followWith_congr plan fun x hx t ht => (ih (hinner x hx t ht)).1
          constructor
          · rw [customWithin_of_some hparser, customWithin_of_some hparser, Reading.bind_apply,
              Reading.bind_apply, hrun]
          · rw [endsWithin_succ_iff hparser, ← hpoints]
            exact fun x hx t ht => (ih (hinner x hx t ht)).2

theorem EndsWithin.mono {more : Nat} (h : r.EndsWithin depth type p) (hle : depth ≤ more) :
    r.EndsWithin more type p := by
  induction hle with
  | refl => exact h
  | step _ ih => exact (customWithin_succ_eq ih).2

/-! ## How deep a read goes -/

/-- Whether reading a custom type goes one deeper than the given depth, and no deeper. -/
def EndsBeyond (r : Reader) (depth : Nat) (type : Text) (p : Nat) : Prop :=
  r.EndsWithin (depth + 1) type p ∧ ¬ r.EndsWithin depth type p

/-- A read that goes deep asks for one that goes one less deep. -/
theorem exists_endsBeyond_of_succ (hp : p ≤ r.context.parameters.length)
    (h : r.EndsBeyond (depth + 1) type p) :
    ∃ t q, q ≤ r.context.parameters.length ∧ r.EndsBeyond depth t q := by
  obtain ⟨hends, hless⟩ := h
  by_contra hnone
  have hdown : ∀ t q, q ≤ r.context.parameters.length → r.EndsWithin (depth + 1) t q →
      r.EndsWithin depth t q := by
    intro t q hq hwithin
    by_contra hnot
    exact hnone ⟨t, q, hq, hwithin, hnot⟩
  apply hless
  cases hparser : r.parsers.get? type with
  | none => exact endsWithin_of_none hparser depth p
  | some plan =>
      have hinner : ∀ x ∈ r.points (r.customWithin (depth + 1)) plan p, ∀ t ∈ x.asks,
          r.EndsWithin depth t x.cursor := by
        intro x hx t ht
        apply hdown t x.cursor (cursor_le_of_mem_points hp hx)
        exact (endsWithin_succ_iff hparser).1 hends x hx t ht
      have hsame : r.points (r.customWithin (depth + 1)) plan p =
          r.points (r.customWithin depth) plan p :=
        (followWith_congr plan fun x hx t ht =>
          (customWithin_succ_eq (hinner x hx t ht)).1.symm).2
      rw [endsWithin_succ_iff hparser, ← hsame]
      exact hinner

theorem exists_endsBeyond_of_le {less : Nat} (hle : less ≤ depth)
    (hp : p ≤ r.context.parameters.length) (h : r.EndsBeyond depth type p) :
    ∃ t q, q ≤ r.context.parameters.length ∧ r.EndsBeyond less t q := by
  induction depth generalizing type p with
  | zero =>
      obtain rfl := Nat.le_zero.1 hle
      exact ⟨type, p, hp, h⟩
  | succ depth ih =>
      rcases Nat.lt_or_eq_of_le hle with hlt | rfl
      · obtain ⟨t, q, hq, hbeyond⟩ := exists_endsBeyond_of_succ hp h
        exact ih (Nat.le_of_lt_succ hlt) hq hbeyond
      · exact ⟨type, p, hp, h⟩

/-- The custom types with a parser, each with every cursor there is. -/
def sites (r : Reader) : Finset (Text × Nat) :=
  r.parsers.keys.toFinset ×ˢ Finset.range (r.context.parameters.length + 1)

theorem card_sites_lt_depth (r : Reader) : r.sites.card < r.depth := by
  have hkeys : r.parsers.keys.toFinset.card ≤ r.parsers.size := by
    calc r.parsers.keys.toFinset.card
        ≤ r.parsers.keys.length := List.toFinset_card_le _
      _ = r.parsers.size := List.length_map _
  rw [sites, Finset.card_product, Finset.card_range, depth]
  exact Nat.lt_succ_of_le (Nat.mul_le_mul_right _ hkeys)

/-- Below the first, every depth that a read goes beyond is that of a site. -/
theorem mem_sites_of_endsBeyond (hp : p ≤ r.context.parameters.length)
    (h : r.EndsBeyond (depth + 1) type p) : (type, p) ∈ r.sites := by
  have hparser : r.parsers.contains type = true := by
    rw [Table.contains, Option.isSome_iff_ne_none]
    intro hnone
    exact h.2 (endsWithin_of_none hnone depth p)
  simp only [sites, Finset.mem_product, List.mem_toFinset, Finset.mem_range]
  exact ⟨Table.mem_keys_iff.2 hparser, Nat.lt_succ_of_le hp⟩

theorem EndsBeyond.depth_unique {less : Nat} (h : r.EndsBeyond depth type p)
    (hless : r.EndsBeyond less type p) : ¬ less < depth :=
  fun hlt => h.2 (hless.1.mono hlt)

/-- A read that goes beyond a depth has gone through as many sites. -/
theorem le_card_sites (hp : p ≤ r.context.parameters.length) (h : r.EndsBeyond depth type p) :
    depth ≤ r.sites.card := by
  have hsite : ∀ k ∈ Finset.range depth, ∃ x ∈ r.sites, r.EndsBeyond (k + 1) x.1 x.2 := by
    intro k hk
    obtain ⟨t, q, hq, hbeyond⟩ := exists_endsBeyond_of_le (Finset.mem_range.1 hk) hp h
    exact ⟨(t, q), mem_sites_of_endsBeyond hq hbeyond, hbeyond⟩
  choose! site hmem hbeyond using hsite
  have hinj : Set.InjOn site (Finset.range depth) := by
    intro k hk l hl heq
    have hk' := hbeyond k hk
    have hl' := hbeyond l hl
    rw [← heq] at hl'
    have hkl := hk'.depth_unique hl'
    have hlk := hl'.depth_unique hk'
    omega
  calc depth = (Finset.range depth).card := (Finset.card_range depth).symm
    _ ≤ r.sites.card := Finset.card_le_card_of_injOn site hmem hinj

/-- The depth that the reader fixes is enough for every read that ends. -/
theorem endsWithin_depth (hp : p ≤ r.context.parameters.length) (h : r.Ends type p) :
    r.EndsWithin r.depth type p := by
  classical
  have hleast := Nat.find_spec h
  cases hfind : Nat.find h with
  | zero =>
      rw [hfind] at hleast
      exact hleast.elim
  | succ depth =>
      rw [hfind] at hleast
      have hbeyond : r.EndsBeyond depth type p :=
        ⟨hleast, Nat.find_min h (by rw [hfind]; exact Nat.lt_succ_self depth)⟩
      apply hleast.mono
      exact Nat.lt_of_le_of_lt (le_card_sites hp hbeyond) r.card_sites_lt_depth

/-! ## Custom types by their parsers -/

theorem custom_eq_customWithin_succ (hp : p ≤ r.context.parameters.length) (h : r.Ends type p) :
    r.custom type p = r.customWithin (r.depth + 1) type p :=
  (customWithin_succ_eq (endsWithin_depth hp h)).1

/-- A custom type whose read ends is read by its parser, which reads custom types in turn as the
reader does. -/
theorem custom_eq {plan : TypeParser} (hp : p ≤ r.context.parameters.length)
    (hparser : r.parsers.get? type = some plan) (h : r.Ends type p) :
    r.custom type p = (do
      let parts ← r.follow plan
      return some (Bound.custom type parts)) p := by
  rw [custom_eq_customWithin_succ hp h, customWithin_of_some hparser]
  rfl

/-- A read ends if and only if all reads of custom types inside it do. -/
theorem ends_iff {plan : TypeParser} (hp : p ≤ r.context.parameters.length)
    (hparser : r.parsers.get? type = some plan) :
    r.Ends type p ↔ ∀ x ∈ r.points r.custom plan p, ∀ t ∈ x.asks, r.Ends t x.cursor := by
  constructor
  · intro h x hx t ht
    have hwithin : r.EndsWithin (r.depth + 1) type p := (endsWithin_depth hp h).mono (Nat.le_succ _)
    exact ⟨r.depth, (endsWithin_succ_iff hparser).1 hwithin x hx t ht⟩
  · intro h
    refine ⟨r.depth + 1, (endsWithin_succ_iff hparser).2 fun x hx t ht => ?_⟩
    exact endsWithin_depth (cursor_le_of_mem_points hp hx) (h x hx t ht)

end LineDispatch.Reader
