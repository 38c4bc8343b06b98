import LineDispatch.Proofs.Context.Items

/-!
# Narrowed contexts are read from their tokens

A context holds its arguments three times over: as parameters, as flags and as
raw tokens.  It comes from tokens, or from parameters and flags that tokens can
spell, and is then narrowed any number of times.  However that is done, reading
its tokens afresh gives the context itself (`ofTokens_tokens`), so the three
views never come apart.

The invariant is that the context is that of a list of complete items
(`Itemized`).  Each way to begin establishes it, each narrowing step keeps it,
and so it holds along every run (`Narrowed.itemized`).
-/

namespace LineDispatch.Context

/-- The contexts that are made from tokens, or from parts that tokens can spell, and narrowed any
number of times. -/
inductive Narrowed : Context → Prop
  | ofTokens {tokens : List Text} {c : Context} (h : ofTokens tokens = .ok c) : Narrowed c
  | ofParts {parameters : List Text} {flags : Flags}
    (hparameters : ∀ t ∈ parameters, Item.isFlag t = false) (hflags : flags.WellFormed) :
    Narrowed (ofParts parameters flags)
  | skip {c : Context} (h : Narrowed c) (n : Nat) : Narrowed (c.skip n)
  | withParameters {c : Context} (h : Narrowed c) {parameters : List Text}
    (hparameters : ∀ t ∈ parameters, Item.isFlag t = false) :
    Narrowed (c.withParameters parameters)

/-- Whether the context is that of a list of complete items. -/
def Itemized (c : Context) : Prop := ∃ items, (∀ i ∈ items, i.Complete) ∧ ofItems items = c

/-- The contexts of complete items are those that are read back from their tokens. -/
theorem itemized_iff {c : Context} : c.Itemized ↔ ofTokens c.tokens = .ok c := by
  constructor
  · rintro ⟨items, hcomplete, rfl⟩
    exact ofTokens_flatMap hcomplete
  · intro h
    exact ⟨_, ofTokens_eq_ok_iff.1 h⟩

/-! ## Beginnings -/

theorem itemized_of_ofTokens {tokens : List Text} {c : Context} (h : ofTokens tokens = .ok c) :
    c.Itemized :=
  ⟨Item.scan tokens, ofTokens_eq_ok_iff.1 h⟩

theorem itemized_ofParts {parameters : List Text} {flags : Flags}
    (hparameters : ∀ t ∈ parameters, Item.isFlag t = false) (hflags : flags.WellFormed) :
    (ofParts parameters flags).Itemized := by
  refine ⟨_, ?_, (ofParts_eq_ofItems parameters flags).symm⟩
  intro i hi
  rcases List.mem_append.1 hi with hi | hi
  · exact Item.complete_of_mem_map hparameters i hi
  · obtain ⟨p, hp, rfl⟩ := List.mem_map.1 hi
    exact Item.complete_ofBinding hflags hp

/-! ## Steps and runs -/

theorem Itemized.skip {c : Context} (h : c.Itemized) (n : Nat) : (c.skip n).Itemized := by
  obtain ⟨items, hcomplete, rfl⟩ := h
  refine ⟨_, ?_, (skip_ofItems hcomplete n).symm⟩
  exact fun i hi => hcomplete i ((Item.dropPositional_sublist n items).subset hi)

theorem Itemized.withParameters {c : Context} (h : c.Itemized) {parameters : List Text}
    (hparameters : ∀ t ∈ parameters, Item.isFlag t = false) :
    (c.withParameters parameters).Itemized := by
  obtain ⟨items, hcomplete, rfl⟩ := h
  refine ⟨_, ?_, (withParameters_ofItems hcomplete parameters).symm⟩
  intro i hi
  rcases List.mem_append.1 hi with hi | hi
  · exact Item.complete_of_mem_map hparameters i hi
  · exact hcomplete i ((Item.flagItems_sublist items).subset hi)

theorem Narrowed.itemized {c : Context} (h : Narrowed c) : c.Itemized := by
  -- Induction on the run: two ways to begin, two kinds of steps.
  induction h with
  | ofTokens h => exact itemized_of_ofTokens h
  | ofParts hparameters hflags => exact itemized_ofParts hparameters hflags
  | skip _ n ih => exact ih.skip n
  | withParameters _ hparameters ih => exact ih.withParameters hparameters

/-- The tokens of a narrowed context are read as the context itself: its parameters are the
positional ones among them, and its flags are those found there. -/
theorem ofTokens_tokens {c : Context} (h : Narrowed c) :
    ofTokens c.tokens = .ok c ∧ Flags.positional c.tokens = c.parameters ∧
      Flags.extract c.tokens = .ok c.flags := by
  have hread : ofTokens c.tokens = .ok c := itemized_iff.1 h.itemized
  obtain ⟨hcomplete, hitems⟩ := ofTokens_eq_ok_iff.1 hread
  refine ⟨hread, congrArg Context.parameters hitems, ?_⟩
  exact Flags.extract_eq_ok_iff.2 ⟨hcomplete, congrArg Context.flags hitems⟩

/-- A run over tokens with a repeated flag, a value that looks like a flag and flags between the
parameters, with a count beyond their end. -/
theorem ofTokens_tokens_run :
    let tokens : List Text := ["add", "-n", "-x", "--all", "1", "-n", "2", "b"]
    let narrow : Context → Context := fun c => ((c.skip 2).withParameters ["y", "z"]).skip 7
    ∃ c, ofTokens tokens = .ok c ∧ Narrowed (narrow c) ∧
      ofTokens (narrow c).tokens = .ok (narrow c) ∧
      Flags.positional (narrow c).tokens = (narrow c).parameters ∧
      Flags.extract (narrow c).tokens = .ok (narrow c).flags := by
  intro tokens narrow
  have hc : ofTokens tokens = .ok (ofItems (Item.scan tokens)) :=
    ofTokens_eq_ok_iff.2 ⟨by decide, rfl⟩
  have hrun : Narrowed (narrow (ofItems (Item.scan tokens))) :=
    (((Narrowed.ofTokens hc).skip 2).withParameters (by decide)).skip 7
  exact ⟨_, hc, hrun, ofTokens_tokens hrun⟩

end LineDispatch.Context
