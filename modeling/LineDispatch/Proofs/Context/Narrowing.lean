import Mathlib.Data.List.Basic
import LineDispatch.Proofs.Context.Composition

/-!
# Narrowing a context step by step

Narrowing drops parameters from the front of the one list and positional tokens
from among the other, which is scanned anew each time.  Dropping nothing changes
nothing, and dropping twice is dropping as many at once
(`Context.skip_outcome`), whatever the context holds and however far the counts
go beyond its parameters.  The flags stay as they are, and so do the tokens that
spell them.

What has to be shown is that the second scan finds what the first one left.  A
scan finds complete items and behind them at most a flag without a value, and
whatever is left out of such items, the rest is read as the same items again
(`Item.scan_flatMap_of_sublist`).
-/

namespace LineDispatch

namespace Item

variable {items : List Item} {ts : List Text}

/-- Items left over from a scan are read from their tokens as they were. -/
theorem scan_flatMap_of_sublist (h : items.Sublist (scan ts)) :
    scan (items.flatMap tokens) = items := by
  obtain ⟨front, hfront, hscan | ⟨flag, hscan, htakes⟩⟩ := exists_complete_front ts
  · rw [hscan] at h
    exact scan_flatMap fun i hi => hfront i (h.subset hi)
  · rw [hscan] at h
    obtain ⟨kept, last, rfl, hkept, hlast⟩ := List.sublist_append_iff.1 h
    have hcomplete : ∀ i ∈ kept, i.Complete := fun i hi => hfront i (hkept.subset hi)
    rw [List.flatMap_append, scan_append hcomplete]
    -- The flag that waits for its value is still the last token, if it is left at all.
    rcases List.sublist_singleton.1 hlast with rfl | rfl
    · rfl
    · obtain ⟨hflag, hswitch⟩ := takesValue_eq_true_iff.1 htakes
      simp [tokens, scan, hflag, hswitch]

theorem dropPositional_dropPositional (a b : Nat) (items : List Item) :
    dropPositional b (dropPositional a items) = dropPositional (a + b) items := by
  fun_induction dropPositional a items with
  | case1 => simp [dropPositional]
  | case2 a t rest ih => rw [ih, Nat.succ_add, dropPositional]
  | case3 a item rest hskip ih =>
      cases item with
      | positional t =>
          cases a with
          | zero => rw [dropPositional_zero, Nat.zero_add]
          | succ a => exact absurd rfl (hskip a t rfl)
      | switch k | option k v | dangling k => simp [dropPositional, ih]

theorem flagItems_dropPositional (n : Nat) (items : List Item) :
    flagItems (dropPositional n items) = flagItems items := by
  fun_induction dropPositional n items with
  | case1 => rfl
  | case2 n t rest ih => exact ih
  | case3 n item rest _ ih =>
      simp only [flagItems, List.filter_cons] at ih ⊢
      rw [ih]

/-- The tokens without their first `count` positional ones. -/
def withoutPositional (count : Nat) (ts : List Text) : List Text :=
  (dropPositional count (scan ts)).flatMap tokens

/-- The tokens of the flags alone. -/
def flagTokens (ts : List Text) : List Text := (flagItems (scan ts)).flatMap tokens

theorem scan_withoutPositional (count : Nat) (ts : List Text) :
    scan (withoutPositional count ts) = dropPositional count (scan ts) :=
  scan_flatMap_of_sublist (dropPositional_sublist count (scan ts))

theorem withoutPositional_withoutPositional (a b : Nat) (ts : List Text) :
    withoutPositional b (withoutPositional a ts) = withoutPositional (a + b) ts := by
  rw [withoutPositional, scan_withoutPositional, dropPositional_dropPositional]
  rfl

theorem flagTokens_withoutPositional (count : Nat) (ts : List Text) :
    flagTokens (withoutPositional count ts) = flagTokens ts := by
  rw [flagTokens, scan_withoutPositional, flagItems_dropPositional]
  rfl

/-- Without a limit every positional token is dropped. -/
theorem withoutPositional_of_length_le {limit : Nat} (h : ts.length ≤ limit) :
    withoutPositional limit ts = flagTokens ts := by
  have hcount : ((scan ts).filterMap positional?).length ≤ limit :=
    Nat.le_trans (filterMap_positional_scan_sublist ts).length_le h
  rw [withoutPositional, dropPositional_eq_flagItems hcount, flagTokens]

end Item

namespace Context

theorem skip_tokens (c : Context) (n : Nat) :
    (c.skip n).tokens = Item.withoutPositional n c.tokens := rfl

theorem skip_zero (c : Context) : c.skip 0 = c := by
  simp [skip]

theorem skip_skip (c : Context) (a b : Nat) : (c.skip a).skip b = c.skip (a + b) := by
  calc (c.skip a).skip b
      = ⟨(c.parameters.drop a).drop b, c.flags,
          Item.withoutPositional b (Item.withoutPositional a c.tokens)⟩ := rfl
    _ = ⟨c.parameters.drop (a + b), c.flags, Item.withoutPositional (a + b) c.tokens⟩ := by
        rw [List.drop_drop, Item.withoutPositional_withoutPositional]

/-- Narrowing by nothing leaves the context as it is, and narrowing twice is narrowing by both
counts at once.  The flags stay, and so does what is left of the tokens when all the positional ones
are dropped, so that the narrowed context and the whole are the same once other parameters are put
in. -/
theorem skip_outcome (c : Context) :
    c.skip 0 = c ∧ (∀ a b, (c.skip a).skip b = c.skip (a + b)) ∧
      ∀ n, (c.skip n).flags = c.flags ∧
        Item.flagTokens (c.skip n).tokens = Item.flagTokens c.tokens ∧
        (∀ limit, c.tokens.length ≤ limit →
          Item.withoutPositional limit (c.skip n).tokens =
            Item.withoutPositional limit c.tokens) ∧
        ∀ parameters, (c.skip n).withParameters parameters = c.withParameters parameters := by
  refine ⟨c.skip_zero, c.skip_skip, fun n => ?_⟩
  have hflags : Item.flagTokens (c.skip n).tokens = Item.flagTokens c.tokens := by
    rw [skip_tokens, Item.flagTokens_withoutPositional]
  refine ⟨rfl, hflags, fun limit hlimit => ?_, fun parameters => ?_⟩
  · have hlimit' : c.tokens.length ≤ n + limit := by omega
    calc Item.withoutPositional limit (c.skip n).tokens
        = Item.withoutPositional (n + limit) c.tokens :=
          Item.withoutPositional_withoutPositional n limit c.tokens
      _ = Item.flagTokens c.tokens := Item.withoutPositional_of_length_le hlimit'
      _ = Item.withoutPositional limit c.tokens :=
          (Item.withoutPositional_of_length_le hlimit).symm
  · exact congrArg (fun ts => (⟨parameters, c.flags, parameters ++ ts⟩ : Context)) hflags

/-- Parameters that look like flags, the last of which lacks a value: they are other parameters than
the positional tokens, and the count goes beyond both. -/
theorem skip_outcome_dangling :
    let parameters : List Text := ["-x", "a", "b", "-n"]
    let c : Context := ofParts parameters {}
    c.tokens.length ≤ 4 ∧ (c.skip 1).tokens = ["-x", "a", "-n"] ∧
      (c.skip 1).parameters = ["a", "b", "-n"] ∧ (c.skip 1).skip 7 = c.skip 8 ∧
      Item.withoutPositional 4 (c.skip 1).tokens = Item.withoutPositional 4 c.tokens := by
  intro parameters c
  have hlimit : c.tokens.length ≤ 4 := by decide
  obtain ⟨-, hskip, hflags⟩ := skip_outcome c
  obtain ⟨-, -, hunlimited, -⟩ := hflags 1
  exact ⟨hlimit, by decide, by decide, hskip 1 7, hunlimited 4 hlimit⟩

end Context

end LineDispatch
