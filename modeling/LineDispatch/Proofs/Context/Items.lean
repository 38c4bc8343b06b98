import LineDispatch.Context
import LineDispatch.Proofs.Results

/-!
# Tokens as items

`Item.scan` reads tokens from left to right, so what an item is read as depends
on what stands before it.  An item is *complete* when it does not depend on
what stands behind it: every item but a flag that still waits for its value.
The tokens of complete items are read as these items again, whatever follows
(`scan_append`), and all that the scan finds is complete but for a flag without
a value at the very end (`exists_complete_front`).

A context is therefore the same thing as a list of complete items: `ofItems`
makes the three views of it, and the operations on contexts are operations on
the list (`skip_ofItems`, `withParameters_ofItems`, `ofParts_eq_ofItems`).
-/

namespace LineDispatch

namespace Item

/-- Whether the item is read from its tokens whatever tokens stand behind them. -/
def Complete : Item → Prop
  | .positional t => isFlag t = false
  | .switch k => isSwitch k = true
  | .option k _ => isFlag k = true ∧ isSwitch k = false
  | .dangling _ => False

instance (i : Item) : Decidable i.Complete := by
  cases i <;> unfold Complete <;> infer_instance

theorem isFlag_of_isSwitch {t : Text} (h : isSwitch t = true) : isFlag t = true := by
  unfold isSwitch at h
  split at h
  · simp [isFlag]
  · cases h

theorem isSwitch_of_not_isFlag {t : Text} (h : isFlag t = false) : isSwitch t = false := by
  cases hs : isSwitch t with
  | false => rfl
  | true =>
      rw [isFlag_of_isSwitch hs] at h
      cases h

/-- Whether a token is a flag that takes the token behind it as its value. -/
def takesValue (token : Text) : Bool := isFlag token && !isSwitch token

theorem takesValue_eq_true_iff {t : Text} :
    takesValue t = true ↔ isFlag t = true ∧ isSwitch t = false := by
  simp [takesValue]

/-! ## Scanning -/

theorem scan_cons_append {i : Item} (h : i.Complete) (ts : List Text) :
    scan (i.tokens ++ ts) = i :: scan ts := by
  cases i with
  | positional t =>
      have hflag : isFlag t = false := h
      cases ts <;> simp [tokens, scan, hflag, isSwitch_of_not_isFlag hflag]
  | switch k =>
      have hswitch : isSwitch k = true := h
      cases ts <;> simp [tokens, scan, hswitch]
  | option k v => simp [tokens, scan, h.1, h.2]
  | dangling k => exact h.elim

/-- The tokens of complete items are read as these items, and the scan goes on with what follows
as if that stood alone. -/
theorem scan_append {items : List Item} (h : ∀ i ∈ items, i.Complete) (ts : List Text) :
    scan (items.flatMap tokens ++ ts) = items ++ scan ts := by
  induction items with
  | nil => rfl
  | cons i rest ih =>
      rw [List.flatMap_cons, List.append_assoc, scan_cons_append (h i List.mem_cons_self),
        ih fun j hj => h j (List.mem_cons_of_mem _ hj)]
      rfl

theorem complete_of_mem_map {parameters : List Text} (h : ∀ t ∈ parameters, isFlag t = false) :
    ∀ i ∈ parameters.map positional, i.Complete := by
  intro i hi
  obtain ⟨t, ht, rfl⟩ := List.mem_map.1 hi
  exact h t ht

theorem scan_flatMap {items : List Item} (h : ∀ i ∈ items, i.Complete) :
    scan (items.flatMap tokens) = items := by
  simpa [scan] using scan_append h []

theorem dangling?_of_complete {i : Item} (h : i.Complete) : i.dangling? = none := by
  cases i with
  | dangling k => exact h.elim
  | positional t | switch k | option k v => rfl

/-- The scan finds complete items, and behind them at most one flag that waits for its value. -/
theorem exists_complete_front (ts : List Text) :
    ∃ front, (∀ i ∈ front, i.Complete) ∧ (scan ts = front ∨
      ∃ flag, scan ts = front ++ [.dangling flag] ∧ takesValue flag = true) := by
  have hcons : ∀ {i : Item} {items : List Item}, i.Complete →
      (∃ front, (∀ i ∈ front, i.Complete) ∧ (items = front ∨
        ∃ flag, items = front ++ [.dangling flag] ∧ takesValue flag = true)) →
      ∃ front, (∀ i ∈ front, i.Complete) ∧ (i :: items = front ∨
        ∃ flag, i :: items = front ++ [.dangling flag] ∧ takesValue flag = true) := by
    rintro i items hi ⟨front, hfront, rfl | ⟨flag, rfl, htakes⟩⟩
    · exact ⟨i :: items, List.forall_mem_cons.2 ⟨hi, hfront⟩, .inl rfl⟩
    · exact ⟨i :: front, List.forall_mem_cons.2 ⟨hi, hfront⟩, .inr ⟨flag, rfl, htakes⟩⟩
  -- The cases are those of the scan: no token, a switch, a flag at the end, a flag with the token
  -- behind it, and a positional token.
  fun_induction scan ts with
  | case1 => exact ⟨[], by simp, .inl rfl⟩
  | case2 token rest hswitch ih => exact hcons hswitch ih
  | case3 token hswitch hflag =>
      have htakes : takesValue token = true :=
        takesValue_eq_true_iff.2 ⟨hflag, by simpa using hswitch⟩
      exact ⟨[], by simp, .inr ⟨token, rfl, htakes⟩⟩
  | case4 token hswitch hflag value rest ih => exact hcons ⟨hflag, by simpa using hswitch⟩ ih
  | case5 token rest hswitch hflag ih => exact hcons (by simpa [Complete] using hflag) ih

/-- A flag that waits for its value is the last token. -/
theorem eq_concat_of_scan_eq {ts : List Text} {front : List Item} {flag : Text}
    (h : scan ts = front ++ [.dangling flag]) : ts = front.flatMap tokens ++ [flag] := by
  rw [← tokens_scan ts, h, List.flatMap_append]
  rfl

/-! ## Views of a list of items -/

theorem dropPositional_sublist (n : Nat) (items : List Item) :
    (dropPositional n items).Sublist items := by
  fun_induction dropPositional n items with
  | case1 => exact List.Sublist.refl _
  | case2 n t rest ih => exact ih.cons _
  | case3 n item rest _ ih => exact ih.cons_cons _

@[simp] theorem dropPositional_zero (items : List Item) : dropPositional 0 items = items := by
  induction items with
  | nil => rfl
  | cons i rest ih =>
      rw [dropPositional, ih]
      simp

/-- The positional tokens are among the tokens, in their order. -/
theorem filterMap_positional_sublist (items : List Item) :
    (items.filterMap positional?).Sublist (items.flatMap tokens) := by
  induction items with
  | nil => exact List.Sublist.refl _
  | cons i rest ih =>
      rw [List.flatMap_cons]
      cases i with
      | positional t => exact ih.cons_cons t
      | switch k | option k v | dangling k => exact ih.trans (List.sublist_append_right _ _)

theorem filterMap_positional_scan_sublist (ts : List Text) :
    ((scan ts).filterMap positional?).Sublist ts := by
  have hsublist := filterMap_positional_sublist (scan ts)
  rwa [tokens_scan] at hsublist

theorem isFlag_of_mem_positional {items : List Item} (h : ∀ i ∈ items, i.Complete) {t : Text}
    (ht : t ∈ items.filterMap positional?) : isFlag t = false := by
  obtain ⟨i, hi, hpos⟩ := List.mem_filterMap.1 ht
  cases i with
  | positional t' =>
      cases hpos
      exact h _ hi
  | switch k | option k v | dangling k => cases hpos

@[simp] theorem filterMap_positional_dropPositional (n : Nat) (items : List Item) :
    (dropPositional n items).filterMap positional? = (items.filterMap positional?).drop n := by
  fun_induction dropPositional n items with
  | case1 => simp
  | case2 n t rest ih => simpa [positional?] using ih
  | case3 n item rest hskip ih =>
      cases item with
      | positional t =>
          cases n with
          | zero => simp
          | succ n => exact absurd rfl (hskip n t rfl)
      | switch k | option k v | dangling k => simpa [positional?, List.filterMap_cons] using ih

@[simp] theorem filterMap_binding_dropPositional (n : Nat) (items : List Item) :
    (dropPositional n items).filterMap binding? = items.filterMap binding? := by
  fun_induction dropPositional n items with
  | case1 => rfl
  | case2 n t rest ih => simpa [binding?, List.filterMap_cons] using ih
  | case3 n item rest _ ih => simp [List.filterMap_cons, ih]

theorem flagItems_sublist (items : List Item) : (flagItems items).Sublist items :=
  List.filter_sublist

@[simp] theorem filterMap_positional_flagItems (items : List Item) :
    (flagItems items).filterMap positional? = [] := by
  rw [List.filterMap_eq_nil_iff]
  intro i hi
  simpa using (List.mem_filter.1 hi).2

@[simp] theorem filterMap_binding_flagItems (items : List Item) :
    (flagItems items).filterMap binding? = items.filterMap binding? := by
  induction items with
  | nil => rfl
  | cons i rest ih =>
      cases i with
      | positional t | dangling k => exact ih
      | switch k | option k v => exact congrArg (_ :: ·) ih

/-! ## Items of parts -/

section Parameters

variable (parameters : List Text)

theorem filterMap_positional_map :
    (parameters.map positional).filterMap positional? = parameters := by
  rw [List.filterMap_map]
  exact List.filterMap_some

theorem filterMap_binding_map : (parameters.map positional).filterMap binding? = [] := by
  rw [List.filterMap_map, List.filterMap_eq_nil_iff]
  exact fun t _ => rfl

theorem flatMap_tokens_map : (parameters.map positional).flatMap tokens = parameters := by
  rw [List.flatMap_map]
  exact List.flatMap_singleton' parameters

theorem dropPositional_map_append (items : List Item) :
    dropPositional parameters.length (parameters.map positional ++ items) = items := by
  induction parameters with
  | nil => exact dropPositional_zero items
  | cons t rest ih => simpa [dropPositional] using ih

/-- Leading tokens that are no flags are positional whatever follows. -/
theorem scan_of_take {ts : List Text} {n : Nat} (h : ∀ t ∈ ts.take n, isFlag t = false) :
    scan ts = (ts.take n).map positional ++ scan (ts.drop n) := by
  have hscan := scan_append (complete_of_mem_map h) (ts.drop n)
  rwa [flatMap_tokens_map, List.take_append_drop] at hscan

end Parameters

end Item

/-! ## Flags -/

namespace Flags

variable {ts : List Text}

theorem extract_of_complete (h : ∀ i ∈ Item.scan ts, i.Complete) :
    extract ts = .ok (Table.ofList ((Item.scan ts).filterMap Item.binding?)) := by
  have hlast : (Item.scan ts).getLast?.bind Item.dangling? = none := by
    rw [Option.bind_eq_none_iff]
    exact fun i hi => Item.dangling?_of_complete (h i (List.mem_of_getLast? hi))
  rw [extract, hlast]

theorem extract_of_dangling {front : List Item} {flag : Text}
    (h : Item.scan ts = front ++ [.dangling flag]) :
    extract ts = .error ⟨.missingFlagValue flag, ts, ts.length - 1⟩ := by
  have hlast : (Item.scan ts).getLast?.bind Item.dangling? = some flag := by
    rw [h, List.getLast?_concat]
    rfl
  rw [extract, hlast]

/-- The flags of tokens can be read unless one waits for its value at the end. -/
theorem extract_eq_ok_iff {flags : Flags} :
    extract ts = .ok flags ↔
      (∀ i ∈ Item.scan ts, i.Complete) ∧
        Table.ofList ((Item.scan ts).filterMap Item.binding?) = flags := by
  obtain ⟨front, hfront, hscan | ⟨flag, hscan, -⟩⟩ := Item.exists_complete_front ts
  · rw [← hscan] at hfront
    rw [extract_of_complete hfront, Except.ok.injEq, and_iff_right hfront]
  · rw [extract_of_dangling hscan, hscan]
    simp only [reduceCtorEq, false_iff, not_and]
    intro hcomplete
    exact (hcomplete (.dangling flag) (by simp)).elim

/-- Reading the flags fails if the last token is a flag that waits for its value. -/
theorem extract_eq_error_iff {e : ParseError} :
    extract ts = .error e ↔ ∃ front flag, (∀ i ∈ front, i.Complete) ∧
      Item.takesValue flag = true ∧ Item.scan ts = front ++ [.dangling flag] ∧
        e = ⟨.missingFlagValue flag, ts, ts.length - 1⟩ := by
  constructor
  · intro h
    obtain ⟨front, hfront, hscan | ⟨flag, hscan, htakes⟩⟩ := Item.exists_complete_front ts
    · rw [← hscan] at hfront
      rw [extract_of_complete hfront] at h
      cases h
    · rw [extract_of_dangling hscan] at h
      cases h
      exact ⟨front, flag, hfront, htakes, hscan, rfl⟩
  · rintro ⟨front, flag, -, -, hscan, rfl⟩
    exact extract_of_dangling hscan

/-- A flag that waits for its value is the last token, and the error points at it. -/
theorem extract_eq_error {e : ParseError} (h : extract ts = .error e) :
    ∃ flag index, e = ⟨.missingFlagValue flag, ts, index⟩ ∧ ts[index]? = some flag ∧
      index + 1 = ts.length := by
  obtain ⟨front, flag, -, -, hscan, rfl⟩ := extract_eq_error_iff.1 h
  have hts := Item.eq_concat_of_scan_eq hscan
  have hlength : ts.length = (front.flatMap Item.tokens).length + 1 := by
    rw [hts, List.length_append, List.length_singleton]
  refine ⟨flag, ts.length - 1, rfl, ?_, by omega⟩
  rw [← List.getLast?_eq_getElem?, hts, List.getLast?_concat]

/-- Whether tokens can spell the flags: the keys begin with a dash, and those that begin with two
are the ones without a value. -/
def WellFormed (flags : Flags) : Prop :=
  ∀ p ∈ flags.entries, Item.isFlag p.1 = true ∧ (Item.isSwitch p.1 = true ↔ p.2 = none)

end Flags

namespace Item

/-- The item of a binding. -/
def ofBinding : Text × Option Text → Item
  | (key, none) => .switch key
  | (key, some value) => .option key value

@[simp] theorem binding?_ofBinding (p : Text × Option Text) : (ofBinding p).binding? = some p := by
  rcases p with ⟨k, _ | v⟩ <;> rfl

@[simp] theorem positional?_ofBinding (p : Text × Option Text) :
    (ofBinding p).positional? = none := by
  rcases p with ⟨k, _ | v⟩ <;> rfl

@[simp] theorem tokens_ofBinding (p : Text × Option Text) :
    (ofBinding p).tokens = p.1 :: p.2.toList := by
  rcases p with ⟨k, _ | v⟩ <;> rfl

theorem complete_ofBinding {flags : Flags} (h : flags.WellFormed) {p : Text × Option Text}
    (hp : p ∈ flags.entries) : (ofBinding p).Complete := by
  obtain ⟨hflag, hswitch⟩ := h p hp
  rcases p with ⟨k, _ | v⟩
  · exact hswitch.2 rfl
  · exact ⟨hflag, by simpa using hswitch⟩

section Flags

variable (flags : Flags)

theorem filterMap_positional_ofBinding :
    (flags.entries.map ofBinding).filterMap positional? = [] := by
  rw [List.filterMap_map, List.filterMap_eq_nil_iff]
  exact fun p _ => positional?_ofBinding p

theorem filterMap_binding_ofBinding :
    (flags.entries.map ofBinding).filterMap binding? = flags.entries := by
  have hread : binding? ∘ ofBinding = some := funext binding?_ofBinding
  rw [List.filterMap_map, hread, List.filterMap_some]

theorem flatMap_tokens_ofBinding :
    (flags.entries.map ofBinding).flatMap tokens = flags.tokens := by
  simp [List.flatMap_map, Flags.tokens]

end Flags

end Item

/-! ## Contexts -/

namespace Context

/-- The context of a list of items. -/
def ofItems (items : List Item) : Context :=
  ⟨items.filterMap Item.positional?, Table.ofList (items.filterMap Item.binding?),
    items.flatMap Item.tokens⟩

theorem ofTokens_eq_ok_iff {ts : List Text} {c : Context} :
    ofTokens ts = .ok c ↔ (∀ i ∈ Item.scan ts, i.Complete) ∧ ofItems (Item.scan ts) = c := by
  have hviews : ofItems (Item.scan ts) = ⟨Flags.positional ts,
      Table.ofList ((Item.scan ts).filterMap Item.binding?), ts⟩ := by
    simp [ofItems, Flags.positional]
  rw [ofTokens, map_eq_ok_iff, hviews]
  constructor
  · rintro ⟨flags, hflags, rfl⟩
    obtain ⟨hcomplete, rfl⟩ := Flags.extract_eq_ok_iff.1 hflags
    exact ⟨hcomplete, rfl⟩
  · rintro ⟨hcomplete, rfl⟩
    exact ⟨_, Flags.extract_eq_ok_iff.2 ⟨hcomplete, rfl⟩, rfl⟩

/-- The tokens of complete items are read as the context of these items. -/
theorem ofTokens_flatMap {items : List Item} (h : ∀ i ∈ items, i.Complete) :
    ofTokens (items.flatMap Item.tokens) = .ok (ofItems items) := by
  rw [ofTokens_eq_ok_iff, Item.scan_flatMap h]
  exact ⟨h, rfl⟩

variable {items : List Item}

theorem skip_ofItems (h : ∀ i ∈ items, i.Complete) (n : Nat) :
    (ofItems items).skip n = ofItems (Item.dropPositional n items) := by
  simp [skip, ofItems, Item.scan_flatMap h]

theorem withParameters_ofItems (h : ∀ i ∈ items, i.Complete) (parameters : List Text) :
    (ofItems items).withParameters parameters =
      ofItems (parameters.map .positional ++ Item.flagItems items) := by
  simp only [withParameters, ofItems, Item.scan_flatMap h, List.filterMap_append,
    List.flatMap_append, Item.filterMap_positional_map, Item.filterMap_binding_map,
    Item.flatMap_tokens_map, Item.filterMap_positional_flagItems, Item.filterMap_binding_flagItems,
    List.append_nil, List.nil_append]

theorem ofParts_eq_ofItems (parameters : List Text) (flags : Flags) :
    ofParts parameters flags =
      ofItems (parameters.map .positional ++ flags.entries.map .ofBinding) := by
  simp only [ofParts, ofItems, List.filterMap_append, List.flatMap_append,
    Item.filterMap_positional_map, Item.filterMap_binding_map, Item.flatMap_tokens_map,
    Item.filterMap_positional_ofBinding, Item.filterMap_binding_ofBinding,
    Item.flatMap_tokens_ofBinding, List.append_nil, List.nil_append, Table.ofList_entries]

end Context

end LineDispatch
