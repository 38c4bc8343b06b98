import LineDispatch.Proofs.Context.Items

/-!
# Flags of a list put together

Reading tokens can be cut in two where no flag waits for its value.  If the
flags of the first tokens can be read, all their items are complete, and the
second tokens are read as if they stood alone (`Item.scan_append`).  So the
positional tokens of both are put one after the other, the later flags hold over
the earlier ones, and an error in the second tokens is told against all of them
(`Flags.extract_append_of_ok`, `Flags.extract_append_of_error`).  A flag that
waits for its value gets it from the next token, whatever that is
(`Flags.extract_concat`).

No token is lost in between: each is positional or belongs to a flag, in the
order in which they were given (`Item.interleaved_tokens`).
-/

namespace LineDispatch

/-- Whether a list is put together from two others, each in its own order. -/
inductive Interleaved {α : Type} : List α → List α → List α → Prop
  | nil : Interleaved [] [] []
  | left (x : α) {xs ys zs : List α} (h : Interleaved xs ys zs) :
    Interleaved (x :: xs) ys (x :: zs)
  | right (y : α) {xs ys zs : List α} (h : Interleaved xs ys zs) :
    Interleaved xs (y :: ys) (y :: zs)

theorem Interleaved.append_right {α : Type} {xs ys zs : List α} (h : Interleaved xs ys zs)
    (front : List α) : Interleaved xs (front ++ ys) (front ++ zs) := by
  induction front with
  | nil => exact h
  | cons y rest ih => exact ih.right y

namespace Item

/-- The tokens of items are their positional ones and those of their flags. -/
theorem interleaved_tokens (items : List Item) :
    Interleaved (items.filterMap positional?) ((flagItems items).flatMap tokens)
      (items.flatMap tokens) := by
  induction items with
  | nil => exact .nil
  | cons i rest ih =>
      cases i with
      | positional t => exact ih.left t
      | switch k => exact ih.append_right [k]
      | option k v => exact ih.append_right [k, v]
      | dangling k => exact ih.append_right [k]

/-- Dropping as many positional tokens as there are, or more, leaves the flags. -/
theorem dropPositional_eq_flagItems {n : Nat} {items : List Item}
    (h : (items.filterMap positional?).length ≤ n) : dropPositional n items = flagItems items := by
  fun_induction dropPositional n items with
  | case1 => rfl
  | case2 n t rest ih => exact ih (Nat.le_of_succ_le_succ h)
  | case3 n item rest hskip ih =>
      cases item with
      | positional t =>
          cases n with
          | zero => exact absurd h (Nat.not_succ_le_zero _)
          | succ n => exact absurd rfl (hskip n t rfl)
      | switch k | option k v | dangling k => exact congrArg (_ :: ·) (ih h)

end Item

namespace Flags

variable {a b : List Text} {fa : Flags}

/-- The tokens behind others whose flags can be read are read as if they stood alone. -/
theorem scan_append_of_extract (ha : extract a = .ok fa) (b : List Text) :
    Item.scan (a ++ b) = Item.scan a ++ Item.scan b := by
  have happend := Item.scan_append (extract_eq_ok_iff.1 ha).1 b
  rwa [Item.tokens_scan] at happend

theorem positional_append (ha : extract a = .ok fa) (b : List Text) :
    positional (a ++ b) = positional a ++ positional b := by
  rw [positional, scan_append_of_extract ha, List.filterMap_append]
  rfl

theorem extract_append_of_ok {fb : Flags} (ha : extract a = .ok fa) (hb : extract b = .ok fb) :
    ∃ flags, extract (a ++ b) = .ok flags ∧
      ∀ key, flags.get? key = (fb.get? key).or (fa.get? key) := by
  obtain ⟨hcomplete, rfl⟩ := extract_eq_ok_iff.1 ha
  obtain ⟨hcomplete', rfl⟩ := extract_eq_ok_iff.1 hb
  refine ⟨_, extract_of_complete ?_, ?_⟩
  · rw [scan_append_of_extract ha]
    exact fun i hi => (List.mem_append.1 hi).elim (hcomplete i) (hcomplete' i)
  · intro key
    rw [scan_append_of_extract ha, List.filterMap_append, Table.get?_ofList_append]

theorem extract_append_of_error {e : ParseError} (ha : extract a = .ok fa)
    (hb : extract b = .error e) : extract (a ++ b) = .error (e.rebase a) := by
  obtain ⟨front, flag, -, -, hscan, rfl⟩ := extract_eq_error_iff.1 hb
  have hlast : Item.scan (a ++ b) = (Item.scan a ++ front) ++ [.dangling flag] := by
    rw [scan_append_of_extract ha, hscan, List.append_assoc]
  have hb' := Item.eq_concat_of_scan_eq hscan
  have hpos : 0 < b.length := by
    rw [hb', List.length_append]
    exact Nat.lt_add_left _ Nat.one_pos
  rw [extract_of_dangling hlast, ParseError.rebase, List.length_append, Nat.add_sub_assoc hpos]

/-- A flag that waits for its value takes the next token. -/
theorem extract_concat {t : List Text} {e : ParseError} (h : extract t = .error e) :
    ∃ flag, t.getLast? = some flag ∧ e = ⟨.missingFlagValue flag, t, t.length - 1⟩ ∧
      ∀ v, ∃ flags, extract (t ++ [v]) = .ok flags ∧ flags.value? flag = some v := by
  obtain ⟨front, flag, hfront, htakes, hscan, rfl⟩ := extract_eq_error_iff.1 h
  have ht := Item.eq_concat_of_scan_eq hscan
  refine ⟨flag, by rw [ht, List.getLast?_concat], rfl, fun v => ?_⟩
  have hcomplete : ∀ i ∈ front ++ [Item.option flag v], i.Complete :=
    List.forall_mem_append.2
      ⟨hfront, List.forall_mem_singleton.2 (Item.takesValue_eq_true_iff.1 htakes)⟩
  have hscan' : Item.scan (t ++ [v]) = front ++ [Item.option flag v] := by
    have htokens : t ++ [v] = (front ++ [Item.option flag v]).flatMap Item.tokens := by
      rw [ht, List.flatMap_append, List.append_assoc]
      rfl
    rw [htokens, Item.scan_flatMap hcomplete]
  refine ⟨_, extract_of_complete (hscan' ▸ hcomplete), ?_⟩
  have hbindings : (front ++ [Item.option flag v]).filterMap Item.binding? =
      front.filterMap Item.binding? ++ [(flag, some v)] := by
    rw [List.filterMap_append]
    rfl
  rw [hscan', hbindings, value?, Table.get?_ofList_concat]
  rfl

/-- Reading flags goes part by part, and no token is lost.  Behind tokens whose flags can be read
the others are read alone: positional tokens are put one after the other, later flags hold over
earlier ones, and an error is told against all tokens.  If flags cannot be read, the last token is a
flag that lacks its value, and one token more is that value.  Any tokens are the positional ones and
those that are left when all positional ones are dropped, each in their order. -/
theorem extract_outcome :
    (∀ a b fa, extract a = .ok fa →
      positional (a ++ b) = positional a ++ positional b ∧
      (∀ fb, extract b = .ok fb → ∃ flags, extract (a ++ b) = .ok flags ∧
        ∀ key, flags.get? key = (fb.get? key).or (fa.get? key)) ∧
      ∀ e, extract b = .error e → extract (a ++ b) = .error (e.rebase a)) ∧
    (∀ t e, extract t = .error e →
      ∃ flag, t.getLast? = some flag ∧ e = ⟨.missingFlagValue flag, t, t.length - 1⟩ ∧
        ∀ v, ∃ flags, extract (t ++ [v]) = .ok flags ∧ flags.value? flag = some v) ∧
    ∀ t, Interleaved (positional t) ((Item.flagItems (Item.scan t)).flatMap Item.tokens) t ∧
      ∀ count, (positional t).length ≤ count →
        Item.dropPositional count (Item.scan t) = Item.flagItems (Item.scan t) := by
  refine ⟨?_, fun t e h => extract_concat h, ?_⟩
  · intro a b fa ha
    exact ⟨positional_append ha b, fun fb hb => extract_append_of_ok ha hb,
      fun e hb => extract_append_of_error ha hb⟩
  · intro t
    have hinterleaved := Item.interleaved_tokens (Item.scan t)
    rw [Item.tokens_scan] at hinterleaved
    exact ⟨hinterleaved, fun count hcount => Item.dropPositional_eq_flagItems hcount⟩

/-- A dash alone takes a value and two of them are a switch, unless they are a value themselves.
Behind such tokens stands a flag that is given again, or a positional one and a flag without a
value, which is then given one that looks like a flag. -/
theorem extract_outcome_dashes :
    let a : List Text := ["-", "--", "--", "c"]
    let again : List Text := ["-", "x"]
    let b : List Text := ["d", "-n"]
    let whole : List Text := ["-", "--", "--", "c", "d", "-n"]
    let words : List Text := ["c", "d"]
    let e : ParseError := ⟨.missingFlagValue "-n", b, 1⟩
    extract a = .ok (Table.ofList [("-", some "--"), ("--", none)]) ∧
      (∃ flags, extract (a ++ again) = .ok flags ∧ flags.get? "-" = some (some "x".toList) ∧
        flags.get? "--" = some none) ∧
      extract b = .error e ∧ positional (a ++ b) = words ∧
      extract (a ++ b) = .error ⟨.missingFlagValue "-n", whole, 5⟩ ∧
      (∃ flags, extract (b ++ ["-n".toList]) = .ok flags ∧
        flags.value? "-n" = some "-n".toList) ∧
      Item.dropPositional 2 (Item.scan whole) = Item.flagItems (Item.scan whole) := by
  intro a again b whole words e
  have ha : extract a = .ok (Table.ofList [("-", some "--"), ("--", none)]) := by decide
  have hagain : extract again = .ok (Table.ofList [("-", some "x")]) := by decide
  have hb : extract b = .error e := by decide
  obtain ⟨happend, hconcat, hdrop⟩ := extract_outcome
  obtain ⟨hpositional, -, herror⟩ := happend a b _ ha
  obtain ⟨-, hok, -⟩ := happend a again _ ha
  obtain ⟨flags, hflags, hget⟩ := hok _ hagain
  obtain ⟨flag, hlast, -, hnext⟩ := hconcat b e hb
  cases hlast
  exact ⟨ha, ⟨flags, hflags, hget _, hget _⟩, hb, hpositional, herror e hb, hnext "-n",
    (hdrop whole).2 2 (by decide)⟩

end Flags

end LineDispatch
