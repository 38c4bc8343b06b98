import LineDispatch.Proofs.Context.Reparse

/-!
# Where the values of flags stand

The flags of a context and its raw tokens are two views of the same items, and
of a repeated flag both mean the last: the flags hold its value, and
`Item.valueIndex` finds the place of that value among the tokens.

* A key has the value of the last item with that key (`get?_ofList_last`), so a
  value that the flags hold belongs to an item behind which no other item has
  the same key (`exists_last_option`).
* The index of that value counts the tokens of the items before it
  (`flagValueIndex_ofItems`), and the token there is the value
  (`getElem?_flagValueIndex`).
-/

namespace LineDispatch

namespace Item

variable {items front back : List Item} {key value : Text}

/-! ## The index of a value -/

theorem valueIndex_cons (key : Text) (start : Nat) (i : Item) (rest : List Item) :
    valueIndex key start (i :: rest) =
      (valueIndex key (start + i.tokens.length) rest).or (valueIndex key start [i]) := by
  cases hrest : valueIndex key (start + i.tokens.length) rest <;>
    cases i <;> simp [valueIndex, hrest]

theorem valueIndex_append (key : Text) (start : Nat) (front back : List Item) :
    valueIndex key start (front ++ back) =
      (valueIndex key (start + (front.flatMap tokens).length) back).or
        (valueIndex key start front) := by
  induction front generalizing start with
  | nil => simp [valueIndex]
  | cons i rest ih =>
      have hlength : start + i.tokens.length + (rest.flatMap tokens).length =
          start + ((i :: rest).flatMap tokens).length := by
        rw [List.flatMap_cons, List.length_append]
        omega
      rw [List.cons_append, valueIndex_cons, ih, hlength, valueIndex_cons key start i rest,
        Option.or_assoc]

theorem valueIndex_eq_none (hcomplete : ∀ i ∈ items, i.Complete)
    (hkey : ∀ v, .option key v ∉ items) (start : Nat) : valueIndex key start items = none := by
  induction items generalizing start with
  | nil => rfl
  | cons i rest ih =>
      have hrest := ih (fun j hj => hcomplete j (List.mem_cons_of_mem _ hj))
        (fun v hv => hkey v (List.mem_cons_of_mem _ hv))
      cases i with
      | positional t | switch k => simp [valueIndex, hrest]
      | option k v =>
          have hne : k ≠ key := by
            rintro rfl
            exact hkey v List.mem_cons_self
          simp [valueIndex, hrest, hne]
      | dangling k => exact (hcomplete _ List.mem_cons_self).elim

/-- The last flag `key` has its value behind its key and behind all tokens of the items before. -/
theorem valueIndex_last (hcomplete : ∀ i ∈ back, i.Complete) (hkey : ∀ v, .option key v ∉ back)
    (start : Nat) :
    valueIndex key start (front ++ .option key value :: back) =
      some (start + (front.flatMap tokens).length + 1) := by
  rw [valueIndex_append, valueIndex_cons, valueIndex_eq_none hcomplete hkey]
  simp [valueIndex]

/-! ## The value of a key -/

theorem mem_of_get?_ofList
    (h : ((Table.ofList (items.filterMap binding?)).get? key).join = some value) :
    .option key value ∈ items := by
  rw [Option.join_eq_some_iff, Table.get?_ofList, List.lookup_eq_some_iff] at h
  obtain ⟨later, earlier, hsplit, -⟩ := h
  have hmem : (key, some value) ∈ (items.filterMap binding?).reverse := by
    rw [hsplit]
    exact List.mem_append_right later List.mem_cons_self
  obtain ⟨i, hi, hbinding⟩ := List.mem_filterMap.1 (List.mem_reverse.1 hmem)
  cases i with
  | option k v =>
      cases hbinding
      exact hi
  | positional t | switch k | dangling k => cases hbinding

theorem exists_last_option_of_mem (h : .option key value ∈ items) :
    ∃ front last back, items = front ++ .option key last :: back ∧ ∀ v, .option key v ∉ back := by
  induction items generalizing value with
  | nil => cases h
  | cons i rest ih =>
      by_cases hrest : ∃ v, .option key v ∈ rest
      · obtain ⟨v, hv⟩ := hrest
        obtain ⟨front, last, back, rfl, hback⟩ := ih hv
        exact ⟨i :: front, last, back, rfl, hback⟩
      · rw [not_exists] at hrest
        obtain rfl : .option key value = i := (List.mem_cons.1 h).resolve_right (hrest value)
        exact ⟨[], value, rest, rfl, hrest⟩

/-- Complete items bind a key that takes a value only where it is a flag. -/
theorem get?_ofList_eq_none (h : ∀ i ∈ items, i.Complete) (htakes : takesValue key = true)
    (hkey : ∀ v, .option key v ∉ items) :
    (Table.ofList (items.filterMap binding?)).get? key = none := by
  rw [Table.get?_ofList, List.lookup_eq_none_iff]
  intro p hp
  obtain ⟨i, hi, hbinding⟩ := List.mem_filterMap.1 (List.mem_reverse.1 hp)
  rw [bne_iff_ne]
  rintro rfl
  cases i with
  | switch k =>
      cases hbinding
      have hswitch : isSwitch k = true := h _ hi
      simp [takesValue, hswitch] at htakes
  | option k v =>
      cases hbinding
      exact hkey v hi
  | positional t | dangling k => cases hbinding

/-- The last flag among the items gives its key the value. -/
theorem get?_ofList_last (h : ∀ i ∈ back, i.Complete) (htakes : takesValue key = true)
    (hkey : ∀ v, .option key v ∉ back) :
    (Table.ofList ((front ++ .option key value :: back).filterMap binding?)).get? key =
      some (some value) := by
  have hsplit : (front ++ .option key value :: back).filterMap binding? =
      (front.filterMap binding? ++ [(key, some value)]) ++ back.filterMap binding? := by
    simp [binding?]
  rw [hsplit, Table.get?_ofList_append, get?_ofList_eq_none h htakes hkey, Option.none_or,
    Table.get?_ofList_concat]

/-- A value among the bindings of items is that of the last item with its key. -/
theorem exists_last_option (h : ∀ i ∈ items, i.Complete)
    (hvalue : ((Table.ofList (items.filterMap binding?)).get? key).join = some value) :
    ∃ front back, items = front ++ .option key value :: back ∧ ∀ v, .option key v ∉ back := by
  have hmem := mem_of_get?_ofList hvalue
  have htakes : takesValue key = true := takesValue_eq_true_iff.2 (h _ hmem)
  obtain ⟨front, last, back, rfl, hkey⟩ := exists_last_option_of_mem hmem
  have hback : ∀ i ∈ back, i.Complete := fun i hi => h i (by simp [hi])
  rw [get?_ofList_last hback htakes hkey] at hvalue
  cases hvalue
  exact ⟨front, back, rfl, hkey⟩

end Item

namespace Context

variable {items front back : List Item} {key value : Text}

theorem flagValueIndex_ofItems (h : ∀ i ∈ front ++ .option key value :: back, i.Complete)
    (hkey : ∀ v, .option key v ∉ back) :
    (ofItems (front ++ .option key value :: back)).flagValueIndex key =
      some ((front.flatMap Item.tokens).length + 1) := by
  have hback : ∀ i ∈ back, i.Complete := fun i hi => h i (by simp [hi])
  have hscan : Item.scan (ofItems (front ++ .option key value :: back)).tokens =
      front ++ .option key value :: back := Item.scan_flatMap h
  rw [flagValueIndex, hscan, Item.valueIndex_last hback hkey]
  simp [ofItems, Item.tokens]

/-- The value of a flag is the token at its index. -/
theorem getElem?_flagValueIndex {c : Context} (h : c.Itemized)
    (hvalue : c.flags.value? key = some value) :
    ∃ i, c.flagValueIndex key = some i ∧ c.tokens[i]? = some value := by
  obtain ⟨items, hcomplete, rfl⟩ := h
  obtain ⟨front, back, rfl, hkey⟩ := Item.exists_last_option hcomplete hvalue
  refine ⟨_, flagValueIndex_ofItems hcomplete hkey, ?_⟩
  simp [ofItems, Item.tokens]

end Context

end LineDispatch
