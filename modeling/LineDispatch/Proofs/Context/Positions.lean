import LineDispatch.Proofs.Context.FlagValues

/-!
# Flags by their positions

A token behind a flag with one dash is the value of that flag, even if it looks
like a flag itself.  So whether a key stands somewhere as a flag is decided by
what stands before it, and `Item.isValueAt` decides it on the tokens alone, from
left to right.

* What stands behind the tokens of complete items is decided as if it stood
  alone (`isValueAt_flatMap`).
* A key that none of the items has as a flag stands among their tokens only as
  the value of another flag (`isValueAt_of_getElem?`).

So the last item with a key is the last position at which the key is a flag
(`lastFlag_flatMap`), and the index of its value is the position behind that
(`Context.flagValueIndex_outcome`).
-/

namespace LineDispatch

namespace Item

/-- Whether the token at an index is the value of the flag before it, which is a flag only if it is
no value itself. -/
def isValueAt (tokens : List Text) : Nat → Bool
  | 0 => false
  | i + 1 => !isValueAt tokens i && tokens[i]?.any takesValue

/-- Whether an index is the last at which `key` stands as a flag: wherever it stands behind that,
it is the value of another flag. -/
structure LastFlag (tokens : List Text) (key : Text) (i : Nat) : Prop where
  key_at : tokens[i]? = some key
  not_value : isValueAt tokens i = false
  later : ∀ j, i < j → tokens[j]? = some key → isValueAt tokens j = true

theorem LastFlag.unique {ts : List Text} {key : Text} {i j : Nat} (hi : LastFlag ts key i)
    (hj : LastFlag ts key j) : i = j := by
  rcases Nat.lt_trichotomy i j with hlt | heq | hgt
  · have hvalue := hi.later j hlt hj.key_at
    rw [hj.not_value] at hvalue
    cases hvalue
  · exact heq
  · have hvalue := hj.later i hgt hi.key_at
    rw [hi.not_value] at hvalue
    cases hvalue

variable {items front back : List Item} {key value : Text}

/-! ## Values behind complete items -/

theorem isValueAt_append {before after : List Text}
    (h : isValueAt (before ++ after) before.length = false) (j : Nat) :
    isValueAt (before ++ after) (before.length + j) = isValueAt after j := by
  induction j with
  | zero => exact h
  | succ j ih =>
      rw [← Nat.add_assoc, isValueAt, ih, isValueAt,
        List.getElem?_append_right (Nat.le_add_right _ j), Nat.add_sub_cancel_left]

theorem isValueAt_tokens {i : Item} (h : i.Complete) (after : List Text) :
    isValueAt (i.tokens ++ after) i.tokens.length = false := by
  cases i with
  | positional t =>
      have hflag : isFlag t = false := h
      simp [tokens, isValueAt, takesValue, hflag]
  | switch k =>
      have hswitch : isSwitch k = true := h
      simp [tokens, isValueAt, takesValue, hswitch]
  | option k v => simp [tokens, isValueAt, takesValue, h.1, h.2]
  | dangling k => exact h.elim

theorem isValueAt_flatMap (h : ∀ i ∈ items, i.Complete) (after : List Text) (j : Nat) :
    isValueAt (items.flatMap tokens ++ after) ((items.flatMap tokens).length + j) =
      isValueAt after j := by
  induction items with
  | nil => simp
  | cons i rest ih =>
      have hfirst := isValueAt_tokens (h i List.mem_cons_self) (rest.flatMap tokens ++ after)
      rw [List.flatMap_cons, List.append_assoc, List.length_append, Nat.add_assoc,
        isValueAt_append hfirst]
      exact ih fun i' hi => h i' (List.mem_cons_of_mem _ hi)

/-- Of the tokens of one item only the value of a flag can be a key that is not the item's own. -/
theorem isValueAt_of_getElem?_tokens {i : Item} (h : i.Complete) (htakes : takesValue key = true)
    (hkey : ∀ v, i ≠ .option key v) {j : Nat} (hj : i.tokens[j]? = some key) (after : List Text) :
    isValueAt (i.tokens ++ after) j = true := by
  cases i with
  | positional t =>
      have ht : key = t := List.mem_singleton.1 (List.mem_of_getElem? hj)
      have hflag : isFlag t = false := h
      simp [takesValue, ht, hflag] at htakes
  | switch k =>
      have hk : key = k := List.mem_singleton.1 (List.mem_of_getElem? hj)
      have hswitch : isSwitch k = true := h
      simp [takesValue, hk, hswitch] at htakes
  | option k v =>
      rcases j with _ | _ | j
      · have hk : k = key := by simpa [tokens] using hj
        exact absurd (congrArg (option · v) hk) (hkey v)
      · simp [tokens, isValueAt, takesValue, h.1, h.2]
      · simp [tokens] at hj
  | dangling k => exact h.elim

/-- A key that is not among the flags of the items stands among their tokens only as a value. -/
theorem isValueAt_of_getElem? (h : ∀ i ∈ items, i.Complete) (htakes : takesValue key = true)
    (hkey : ∀ v, .option key v ∉ items) {j : Nat} (hj : (items.flatMap tokens)[j]? = some key) :
    isValueAt (items.flatMap tokens) j = true := by
  induction items generalizing j with
  | nil => simp at hj
  | cons i rest ih =>
      have hi : i.Complete := h i List.mem_cons_self
      rw [List.flatMap_cons] at hj ⊢
      rcases Nat.lt_or_ge j i.tokens.length with hlt | hge
      · rw [List.getElem?_append_left hlt] at hj
        refine isValueAt_of_getElem?_tokens hi htakes (fun v heq => ?_) hj _
        exact hkey v (heq ▸ List.mem_cons_self)
      · obtain ⟨m, rfl⟩ := Nat.exists_eq_add_of_le hge
        rw [List.getElem?_append_right hge, Nat.add_sub_cancel_left] at hj
        rw [isValueAt_append (isValueAt_tokens hi _)]
        exact ih (fun i' hi' => h i' (List.mem_cons_of_mem _ hi'))
          (fun v hv => hkey v (List.mem_cons_of_mem _ hv)) hj

/-! ## The last item with a key -/

/-- The last flag among the items is the last among their tokens. -/
theorem lastFlag_flatMap (h : ∀ i ∈ front ++ .option key value :: back, i.Complete)
    (hkey : ∀ v, .option key v ∉ back) :
    LastFlag ((front ++ .option key value :: back).flatMap tokens) key
      (front.flatMap tokens).length := by
  have hfront : ∀ i ∈ front, i.Complete := fun i hi => h i (by simp [hi])
  have hback : ∀ i ∈ back, i.Complete := fun i hi => h i (by simp [hi])
  have hoption : (Item.option key value).Complete := h _ (by simp)
  have htakes : takesValue key = true := takesValue_eq_true_iff.2 hoption
  rw [List.flatMap_append, List.flatMap_cons]
  constructor
  · simp [tokens]
  · have hboundary :=
      isValueAt_flatMap hfront ((Item.option key value).tokens ++ back.flatMap tokens) 0
    simpa [isValueAt] using hboundary
  · intro j hj hat
    obtain ⟨m, rfl⟩ := Nat.exists_eq_add_of_le (Nat.le_of_lt hj)
    rw [List.getElem?_append_right (Nat.le_add_right _ m), Nat.add_sub_cancel_left] at hat
    rw [isValueAt_flatMap hfront]
    -- Behind the key come its own value and then the tokens of the other items.
    rcases m with _ | _ | m
    · exact absurd hj (Nat.lt_irrefl _)
    · simp [tokens, isValueAt, htakes]
    · have hrest : (back.flatMap tokens)[m]? = some key := by simpa [tokens] using hat
      have hafter := isValueAt_append (isValueAt_tokens hoption (back.flatMap tokens)) m
      have hlength : (Item.option key value).tokens.length + m = m + 2 := Nat.add_comm 2 m
      rw [← hlength, hafter]
      exact isValueAt_of_getElem? hback htakes hkey hrest

end Item

namespace Context

/-- What the flags hold for a key and where its value stands: both come from the last position at
which the key is a flag, or there is neither. -/
theorem exists_lastFlag_or_none {c : Context} (h : c.Itemized) (key : Text) :
    (∃ i value, c.flags.value? key = some value ∧ c.flagValueIndex key = some (i + 1) ∧
      c.tokens[i + 1]? = some value ∧ Item.takesValue key = true ∧ Item.LastFlag c.tokens key i) ∨
    (c.flags.value? key = none ∧ c.flagValueIndex key = none ∧
      ∀ i, Item.takesValue key = true → ¬ Item.LastFlag c.tokens key i) := by
  obtain ⟨items, hcomplete, rfl⟩ := h
  by_cases hmem : ∃ v, .option key v ∈ items
  · obtain ⟨v, hv⟩ := hmem
    obtain ⟨front, value, back, rfl, hkey⟩ := Item.exists_last_option_of_mem hv
    have htakes : Item.takesValue key = true := Item.takesValue_eq_true_iff.2 (hcomplete _ hv)
    have hback : ∀ i ∈ back, i.Complete := fun i hi => hcomplete i (by simp [hi])
    refine .inl ⟨_, value, ?_, flagValueIndex_ofItems hcomplete hkey, ?_, htakes,
      Item.lastFlag_flatMap hcomplete hkey⟩
    · rw [Flags.value?, ofItems, Item.get?_ofList_last hback htakes hkey]
      rfl
    · simp [ofItems, Item.tokens]
  · rw [not_exists] at hmem
    refine .inr ⟨?_, ?_, ?_⟩
    · cases hvalue : (ofItems items).flags.value? key with
      | none => rfl
      | some value => exact absurd (Item.mem_of_get?_ofList hvalue) (hmem value)
    · have hscan : Item.scan (ofItems items).tokens = items := Item.scan_flatMap hcomplete
      rw [flagValueIndex, hscan, Item.valueIndex_eq_none hcomplete hmem]
      rfl
    · intro i htakes hlast
      have hvalue : Item.isValueAt (ofItems items).tokens i = true :=
        Item.isValueAt_of_getElem? hcomplete htakes hmem hlast.key_at
      rw [hlast.not_value] at hvalue
      cases hvalue

/-- The flags hold a value for a key if and only if the key has a value index, and the value is the
token there.  That index is the one behind the last position at which the key is a flag. -/
theorem flagValueIndex_outcome {c : Context} (h : Narrowed c) (key : Text) :
    (∀ value, c.flags.value? key = some value ↔
      ∃ p, c.flagValueIndex key = some p ∧ c.tokens[p]? = some value) ∧
      ∀ p, c.flagValueIndex key = some p ↔
        p < c.tokens.length ∧ Item.takesValue key = true ∧
          ∃ i, p = i + 1 ∧ Item.LastFlag c.tokens key i := by
  rcases exists_lastFlag_or_none h.itemized key with
    ⟨i, value, hvalue, hindex, hat, htakes, hlast⟩ | ⟨hvalue, hindex, hno⟩
  · have hlt : i + 1 < c.tokens.length := (List.getElem?_eq_some_iff.1 hat).1
    rw [hvalue, hindex]
    constructor
    · intro other
      simp [hat]
    · intro p
      rw [Option.some.injEq]
      constructor
      · rintro rfl
        exact ⟨hlt, htakes, i, rfl, hlast⟩
      · rintro ⟨-, -, j, rfl, hj⟩
        rw [hlast.unique hj]
  · rw [hvalue, hindex]
    constructor
    · intro other
      simp
    · intro p
      constructor
      · intro hp
        cases hp
      · rintro ⟨-, htakes, i, -, hlast⟩
        exact absurd hlast (hno i htakes)

/-- A key that is repeated, stands as the value of another flag and has a switch as its value, in
a context that was narrowed twice. -/
theorem flagValueIndex_outcome_run :
    let tokens : List Text := ["a", "-n", "1", "-x", "-n", "-n", "--all", "b", "-y", "-n"]
    let narrowed : List Text := ["c", "d", "-n", "1", "-x", "-n", "-n", "--all", "-y", "-n"]
    let narrow : Context → Context := fun c => (c.skip 1).withParameters ["c", "d"]
    ∃ c, ofTokens tokens = .ok c ∧ Narrowed (narrow c) ∧ (narrow c).tokens = narrowed ∧
      (narrow c).flags.value? "-n" = some "--all".toList ∧
      (narrow c).flagValueIndex "-n" = some 7 ∧
      Item.LastFlag (narrow c).tokens "-n" 6 := by
  intro tokens narrowed narrow
  have hc : ofTokens tokens = .ok (ofItems (Item.scan tokens)) :=
    ofTokens_eq_ok_iff.2 ⟨by decide, rfl⟩
  have hrun : Narrowed (narrow (ofItems (Item.scan tokens))) :=
    ((Narrowed.ofTokens hc).skip 1).withParameters (by decide)
  have hindex : (narrow (ofItems (Item.scan tokens))).flagValueIndex "-n" = some 7 := by
    decide +kernel
  obtain ⟨hvalue, hlast⟩ := flagValueIndex_outcome hrun "-n"
  obtain ⟨-, -, i, hi, hlast⟩ := (hlast 7).1 hindex
  cases hi
  exact ⟨_, hc, hrun, by decide +kernel, (hvalue _).2 ⟨7, hindex, by decide +kernel⟩, hindex, hlast⟩

end Context

end LineDispatch
