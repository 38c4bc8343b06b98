import LineDispatch.Text

/-!
# Tables keyed by text

A table binds texts to values.  Its entries are kept in strictly increasing
order of their keys, so that two tables with the same bindings are the same
table and listing one needs no sorting.  The view of a table is `get?`; what
each operation does is stated through it.
-/

namespace LineDispatch

namespace Text

theorem lt_or_eq_or_gt (a b : Text) : a < b ∨ a = b ∨ b < a := by
  by_cases hab : a < b
  · exact .inl hab
  by_cases hba : b < a
  · exact .inr (.inr hba)
  exact .inr (.inl (List.le_antisymm (List.not_lt.1 hba) (List.not_lt.1 hab)))

theorem ne_of_lt {a b : Text} (h : a < b) : a ≠ b := fun e => List.lt_irrefl b (e ▸ h)

end Text

theorem increasing_nil (α : Type) : ([] : List (Text × α)).Pairwise (fun p q => p.1 < q.1) :=
  List.Pairwise.nil

/-- Bindings from texts to values, in strictly increasing order of the keys. -/
structure Table (α : Type) where
  entries : List (Text × α) := []
  increasing : entries.Pairwise (fun p q => p.1 < q.1) := by exact increasing_nil _

deriving instance DecidableEq for Table

namespace Table

variable {α : Type}

instance : Inhabited (Table α) := ⟨{}⟩

/-- The value bound to `key`, if there is one. -/
def get? (t : Table α) (key : Text) : Option α := t.entries.lookup key

/-- Whether `key` is bound. -/
def contains (t : Table α) (key : Text) : Bool := (t.get? key).isSome

/-- The bound keys, in increasing order. -/
def keys (t : Table α) : List Text := t.entries.map Prod.fst

/-- The number of bindings. -/
def size (t : Table α) : Nat := t.entries.length

/-- Whether nothing is bound. -/
def isEmpty (t : Table α) : Bool := t.entries.isEmpty

/-- Puts a binding into a list of entries at its place, over an older one of the same key. -/
def insertEntry (key : Text) (value : α) : List (Text × α) → List (Text × α)
  | [] => [(key, value)]
  | (k, v) :: rest =>
    if key < k then (key, value) :: (k, v) :: rest
    else if key = k then (key, value) :: rest
    else (k, v) :: insertEntry key value rest

theorem mem_insertEntry {key : Text} {value : α} {entries : List (Text × α)} {p : Text × α}
    (h : p ∈ insertEntry key value entries) : p = (key, value) ∨ p ∈ entries := by
  induction entries with
  | nil => simpa [insertEntry] using h
  | cons e rest ih =>
    simp only [insertEntry] at h
    split at h
    · simpa using h
    · split at h
      · rcases List.mem_cons.1 h with h | h
        · exact .inl h
        · exact .inr (List.mem_cons_of_mem _ h)
      · rcases List.mem_cons.1 h with h | h
        · exact .inr (h ▸ List.mem_cons_self)
        · exact (ih h).imp_right (List.mem_cons_of_mem _)

theorem insertEntry_increasing (key : Text) (value : α) {entries : List (Text × α)}
    (h : entries.Pairwise (fun p q => p.1 < q.1)) :
    (insertEntry key value entries).Pairwise (fun p q => p.1 < q.1) := by
  induction entries with
  | nil => exact List.pairwise_singleton _ _
  | cons e rest ih =>
    have hrest := List.pairwise_cons.1 h
    simp only [insertEntry]
    split
    · rename_i hlt
      refine List.pairwise_cons.2 ⟨fun q hq => ?_, h⟩
      rcases List.mem_cons.1 hq with rfl | hq
      · exact hlt
      · exact List.lt_trans hlt (hrest.1 q hq)
    · split
      · rename_i heq
        exact List.pairwise_cons.2 ⟨fun q hq => heq ▸ hrest.1 q hq, hrest.2⟩
      · rename_i hlt hne
        refine List.pairwise_cons.2 ⟨fun q hq => ?_, ih hrest.2⟩
        rcases mem_insertEntry hq with rfl | hq
        · rcases Text.lt_or_eq_or_gt key e.1 with h' | h' | h'
          · exact absurd h' hlt
          · exact absurd h' hne
          · exact h'
        · exact hrest.1 q hq

/-- The table with `key` bound to `value`, whatever it was bound to before. -/
def insert (t : Table α) (key : Text) (value : α) : Table α :=
  ⟨insertEntry key value t.entries, insertEntry_increasing key value t.increasing⟩

/-- Binds `key` if it is not bound yet.  Gives whether it was not, and the table after it. -/
def insertNew (t : Table α) (key : Text) (value : α) : Bool × Table α :=
  if t.contains key then (false, t) else (true, t.insert key value)

/-- The table of a list of bindings; of two for one key the later holds. -/
def ofList (bindings : List (Text × α)) : Table α :=
  bindings.foldl (fun t p => t.insert p.1 p.2) {}

theorem lookup_insertEntry (key : Text) (value : α) (entries : List (Text × α)) (k : Text) :
    (insertEntry key value entries).lookup k
      = if k = key then some value else entries.lookup k := by
  induction entries with
  | nil =>
    by_cases h : k = key
    · simp [insertEntry, h]
    · have hbeq : (k == key) = false := beq_eq_false_iff_ne.2 h
      simp [insertEntry, List.lookup_cons, hbeq, h]
  | cons e rest ih =>
    obtain ⟨k', v'⟩ := e
    simp only [insertEntry]
    split
    · by_cases h : k = key
      · simp [h]
      · have hbeq : (k == key) = false := beq_eq_false_iff_ne.2 h
        simp [List.lookup_cons, hbeq, h]
    · split
      · rename_i heq
        subst heq
        by_cases h : k = key
        · simp [h]
        · have hbeq : (k == key) = false := beq_eq_false_iff_ne.2 h
          simp [List.lookup_cons, hbeq, h]
      · rename_i hne
        by_cases h : k = k'
        · simp [h, Ne.symm hne]
        · have hbeq : (k == k') = false := beq_eq_false_iff_ne.2 h
          simp [List.lookup_cons, hbeq, ih]

@[simp] theorem get?_empty (k : Text) : ({} : Table α).get? k = none := rfl

@[simp] theorem get?_insert (t : Table α) (key : Text) (value : α) (k : Text) :
    (t.insert key value).get? k = if k = key then some value else t.get? k :=
  lookup_insertEntry key value t.entries k

theorem get?_insertNew (t : Table α) (key : Text) (value : α) (k : Text) :
    (t.insertNew key value).2.get? k = (t.get? k).or (if k = key then some value else none) := by
  unfold insertNew contains
  cases hkey : t.get? key with
  | some old => by_cases h : k = key <;> simp [h, hkey]
  | none => by_cases h : k = key <;> simp [h, hkey]

/-- In a list without repeated keys a key is bound to the value that stands with it. -/
theorem lookup_eq_some_iff {entries : List (Text × α)}
    (h : entries.Pairwise (fun p q => p.1 ≠ q.1)) {k : Text} {v : α} :
    entries.lookup k = some v ↔ (k, v) ∈ entries := by
  induction entries with
  | nil => simp
  | cons e rest ih =>
    obtain ⟨k', v'⟩ := e
    obtain ⟨hfirst, hrest⟩ := List.pairwise_cons.1 h
    by_cases hk : k = k'
    · subst hk
      have hnot : (k, v) ∉ rest := fun hmem => hfirst (k, v) hmem rfl
      simp [hnot, eq_comm]
    · have hbeq : (k == k') = false := beq_eq_false_iff_ne.2 hk
      simp [List.lookup_cons, hbeq, hk, ih hrest]

theorem keys_distinct (t : Table α) : t.entries.Pairwise (fun p q => p.1 ≠ q.1) :=
  t.increasing.imp Text.ne_of_lt

theorem get?_eq_some_iff {t : Table α} {k : Text} {v : α} :
    t.get? k = some v ↔ (k, v) ∈ t.entries :=
  lookup_eq_some_iff t.keys_distinct

theorem eq_of_entries {s t : Table α} (h : s.entries = t.entries) : s = t := by
  cases s
  cases t
  cases h
  rfl

/-- Tables with the same bindings are equal. -/
theorem ext_get? {s t : Table α} (h : ∀ k, s.get? k = t.get? k) : s = t := by
  have hnodup : ∀ u : Table α, u.entries.Nodup := fun u =>
    u.keys_distinct.imp fun hne heq => hne (congrArg Prod.fst heq)
  have hmem : ∀ p, p ∈ s.entries ↔ p ∈ t.entries := by
    rintro ⟨k, v⟩
    rw [← get?_eq_some_iff, ← get?_eq_some_iff, h]
  have hperm : s.entries.Perm t.entries :=
    (List.perm_ext_iff_of_nodup (hnodup s) (hnodup t)).2 hmem
  -- Of two lists in the same strict order neither has an entry out of its place.
  exact eq_of_entries (hperm.eq_of_pairwise
    (fun p q _ _ hpq hqp => absurd hpq (List.lt_asymm hqp)) s.increasing t.increasing)

/-! ## Keys -/

theorem isSome_lookup_iff {entries : List (Text × α)} {k : Text} :
    (entries.lookup k).isSome = true ↔ k ∈ entries.map Prod.fst := by
  rw [List.lookup_isSome_iff, List.mem_map]
  constructor
  · rintro ⟨p, hp, hk⟩
    exact ⟨p, hp, (eq_of_beq hk).symm⟩
  · rintro ⟨p, hp, rfl⟩
    exact ⟨p, hp, beq_self_eq_true p.1⟩

theorem mem_keys_iff {t : Table α} {k : Text} : k ∈ t.keys ↔ t.contains k = true :=
  isSome_lookup_iff.symm

theorem keys_increasing (t : Table α) : t.keys.Pairwise (· < ·) :=
  List.pairwise_map.2 t.increasing

/-! ## Tables of lists -/

/-- Of several bindings of one key the last holds. -/
theorem get?_ofList (bindings : List (Text × α)) (k : Text) :
    (ofList bindings).get? k = bindings.reverse.lookup k := by
  have key : ∀ t : Table α, (bindings.foldl (fun t p => t.insert p.1 p.2) t).get? k =
      (bindings.reverse.lookup k).or (t.get? k) := by
    induction bindings with
    | nil => intro t; rfl
    | cons p rest ih =>
        intro t
        obtain ⟨key, value⟩ := p
        rw [List.foldl_cons, ih, get?_insert, List.reverse_cons, List.lookup_append,
          Option.or_assoc]
        congr 1
        by_cases hk : k = key
        · simp [hk]
        · simp [hk, List.lookup_cons, beq_eq_false_iff_ne.2 hk]
  rw [ofList, key, get?_empty, Option.or_none]

/-- The later bindings hold over the earlier ones. -/
theorem get?_ofList_append (earlier later : List (Text × α)) (k : Text) :
    (ofList (earlier ++ later)).get? k = ((ofList later).get? k).or ((ofList earlier).get? k) := by
  simp only [get?_ofList, List.reverse_append, List.lookup_append]

theorem get?_ofList_concat (bindings : List (Text × α)) (k : Text) (v : α) :
    (ofList (bindings ++ [(k, v)])).get? k = some v := by
  rw [get?_ofList, List.reverse_concat, List.lookup_cons_self]

/-- The keys of the table of a list are the keys in the list. -/
theorem mem_keys_ofList {bindings : List (Text × α)} {k : Text} :
    k ∈ (ofList bindings).keys ↔ k ∈ bindings.map Prod.fst := by
  rw [mem_keys_iff, contains, get?_ofList, isSome_lookup_iff, List.map_reverse, List.mem_reverse]

/-- A table is the table of its entries. -/
@[simp] theorem ofList_entries (t : Table α) : ofList t.entries = t := by
  have hreversed : t.entries.reverse.Pairwise (fun p q => p.1 ≠ q.1) :=
    List.pairwise_reverse.2 (t.keys_distinct.imp Ne.symm)
  refine ext_get? fun k => Option.ext fun v => ?_
  rw [get?_ofList, lookup_eq_some_iff hreversed, List.mem_reverse, get?_eq_some_iff]

end Table

end LineDispatch
