import LineDispatch.Proofs.Registry.Faults
import LineDispatch.Proofs.Text.Columns

/-!
# The columns of parse errors

A parse error reports the column of its token in the line made of its own
tokens.  This line is the one that was typed if no flag was in the way of
telling the error: an error in a parameter is told without any flags, and one in
the value of a flag with the words of the path moved in front of the flags
between them (`FaultSite.Kept`).  Exactly then line and column are right, for
every line that is its tokens with single spaces between them
(`Registry.column_eq_iff`).

The place of the faulty token in the line that was typed is `FaultSite.At`.
Words without spaces can be told from their line (`Tokens.unwords_injective`), so
the error has the right line only if it has the right tokens
(`Registry.Faults.tokens_eq_iff`), and then it also has the right index
(`Registry.Faults.index_eq`).
-/

namespace LineDispatch

/-! ## Places -/

namespace Item

/-- A positional token belongs to an item with as many positional ones before it. -/
theorem exists_positional {items : List Item} {index : Nat} {token : Text}
    (h : (items.filterMap positional?)[index]? = some token) :
    ∃ front back, items = front ++ .positional token :: back ∧
      (front.filterMap positional?).length = index := by
  obtain ⟨hlt, htoken⟩ := List.getElem?_eq_some_iff.1 h
  have hsplit : items.filterMap positional? =
      (items.filterMap positional?).take index ++
        token :: (items.filterMap positional?).drop (index + 1) := by
    rw [← htoken, ← List.drop_eq_getElem_cons hlt, List.take_append_drop]
  obtain ⟨front, rest, hitems, hfront, hrest⟩ := List.filterMap_eq_append_iff.1 hsplit
  obtain ⟨between, i, back, rfl, hbetween, hi, -⟩ := List.filterMap_eq_cons_iff.1 hrest
  refine ⟨front ++ between, back, ?_, ?_⟩
  · cases i with
    | positional t =>
        cases hi
        simp [hitems]
    | switch k | option k v | dangling k => cases hi
  · rw [List.filterMap_append, hfront, List.filterMap_eq_nil_iff.2 hbetween, List.append_nil,
      List.length_take, Nat.min_eq_left (Nat.le_of_lt hlt)]

theorem getElem?_of_scan_eq {ts : List Text} {front back : List Item} {i : Item}
    (h : scan ts = front ++ i :: back) (k : Nat) :
    ts[(front.flatMap tokens).length + k]? = (i.tokens ++ back.flatMap tokens)[k]? := by
  have htokens := tokens_scan ts
  rw [h, List.flatMap_append, List.flatMap_cons] at htokens
  rw [← htokens, List.getElem?_append_right (Nat.le_add_right _ _), Nat.add_sub_cancel_left]

end Item

/-- Whether the token at place `j` of the arguments is the one that the error is about. -/
def FaultSite.At (arguments : List Text) (j : Nat) : FaultSite → Prop
  | .danglingFlag => j + 1 = arguments.length
  | .parameter index => ∃ front token back,
    Item.scan arguments = front ++ .positional token :: back ∧
      (front.filterMap Item.positional?).length = index ∧ (front.flatMap Item.tokens).length = j
  | .flagValue _ key => ∃ front value back,
    Item.scan arguments = front ++ .option key value :: back ∧ (∀ v, .option key v ∉ back) ∧
      (front.flatMap Item.tokens).length + 1 = j

namespace Registry

variable {r : Registry} {name line : Text} {arguments : List Text} {e : ParseError}
  {site : FaultSite}

/-- The faulty token has its place among the arguments. -/
theorem Faults.exists_at (h : r.Faults name arguments site e) :
    ∃ j token, site.At arguments j ∧ arguments[j]? = some token ∧
      e.tokens[e.index]? = some token := by
  cases h with
  | @danglingFlag flag index hcontext htoken hlast =>
      exact ⟨index, flag, hlast, htoken, htoken⟩
  | @parameter c words i token kind fault hleads htoken hfault =>
      obtain ⟨-, rfl⟩ := Context.ofTokens_eq_ok_iff.1 hleads.1
      obtain ⟨front, back, hscan, hcount⟩ := Item.exists_positional htoken
      refine ⟨(front.flatMap Item.tokens).length, token, ⟨front, token, back, hscan, hcount, rfl⟩,
        ?_, htoken⟩
      exact Item.getElem?_of_scan_eq hscan 0
  | @flagValue c words i key token kind fault hleads hvalue hindex htoken hfault =>
      obtain ⟨hcomplete, rfl⟩ := Context.ofTokens_eq_ok_iff.1 hleads.1
      obtain ⟨front, back, hscan, hkey⟩ := Item.exists_last_option hcomplete hvalue
      refine ⟨(front.flatMap Item.tokens).length + 1, token,
        ⟨front, token, back, hscan, hkey, rfl⟩, ?_, ?_⟩
      · exact Item.getElem?_of_scan_eq hscan 1
      · rwa [hleads.getElem?_rebased]

/-- The error is told with tokens of the line. -/
theorem Faults.tokens_subset (h : r.Faults name arguments site e) :
    e.tokens ⊆ name :: arguments := by
  cases h with
  | danglingFlag _ _ _ => exact List.Subset.refl _
  | parameter hleads _ _ =>
      obtain ⟨-, rfl⟩ := Context.ofTokens_eq_ok_iff.1 hleads.1
      exact List.cons_subset_cons _ (Item.filterMap_positional_scan_sublist arguments).subset
  | @flagValue c words i key token kind fault hleads hvalue hindex htoken hfault =>
      obtain ⟨hcomplete, rfl⟩ := Context.ofTokens_eq_ok_iff.1 hleads.1
      have hpositional := Item.filterMap_positional_scan_sublist arguments
      refine List.cons_subset_cons _ (List.append_subset.2 ⟨?_, ?_⟩)
      · exact fun t ht => hpositional.subset (List.mem_of_mem_take ht)
      · rw [Context.skip_ofItems hcomplete]
        intro t ht
        obtain ⟨i, hi, hti⟩ := List.mem_flatMap.1 ht
        rw [← Item.tokens_scan arguments]
        exact List.mem_flatMap.2 ⟨i, (Item.dropPositional_sublist _ _).subset hi, hti⟩

/-- Where no flag is in the way the error points at the place of its token. -/
theorem Faults.index_eq (h : r.Faults name arguments site e) {j : Nat} (hat : site.At arguments j)
    (hkept : site.Kept arguments) : e.index = j + 1 := by
  cases h with
  | @danglingFlag flag index hcontext htoken hlast =>
      have hplace : j + 1 = arguments.length := hat
      dsimp only
      omega
  | @parameter c words i token kind fault hleads htoken hfault =>
      obtain ⟨front, token', back, hscan, hcount, rfl⟩ := hat
      -- All items are positional, so that the items before the token are as many as their tokens.
      have hall := Item.scan_flatMap (Item.complete_of_mem_map hkept)
      rw [Item.flatMap_tokens_map, hscan] at hall
      obtain ⟨before, behind, -, rfl, -⟩ := List.map_eq_append_iff.1 hall.symm
      rw [Item.filterMap_positional_map] at hcount
      rw [Item.flatMap_tokens_map, hcount]
  | @flagValue c words i key token kind fault hleads hvalue hindex htoken hfault =>
      obtain ⟨front, value, back, hscan, hkey, rfl⟩ := hat
      obtain ⟨hwords, -, hskip⟩ := hleads.skip_eq hkept
      obtain ⟨hcomplete, rfl⟩ := Context.ofTokens_eq_ok_iff.1 hleads.1
      -- The words are read as positional items, so that the flag with the value is behind them.
      obtain ⟨between, rfl, hrest⟩ : ∃ between,
          front = (arguments.take words).map .positional ++ between ∧
            Item.scan (arguments.drop words) = between ++ .option key value :: back := by
        rw [Item.scan_of_take hkept] at hscan
        rcases List.append_eq_append_iff.1 hscan with h | ⟨inside, hinside, hback⟩
        · exact h
        · cases inside with
          | nil => exact ⟨[], by simpa using hinside.symm, by simpa using hback.symm⟩
          | cons item inside =>
              obtain ⟨hitem, -⟩ := List.cons.inj hback
              have hmem : item ∈ (arguments.take words).map Item.positional := by
                rw [hinside]
                exact List.mem_append_right _ List.mem_cons_self
              obtain ⟨t, -, rfl⟩ := List.mem_map.1 hmem
              cases hitem
      have hrestComplete : ∀ i ∈ between ++ .option key value :: back, i.Complete := by
        intro i hi
        refine hcomplete i ?_
        rw [hscan, List.append_assoc]
        exact List.mem_append_right _ hi
      rw [hskip, hrest, Context.flagValueIndex_ofItems hrestComplete hkey] at hindex
      cases hindex
      rw [List.flatMap_append, Item.flatMap_tokens_map, List.length_append, hwords]
      dsimp only
      omega

/-- A line without quotes that is its tokens with single spaces between them is refused with its own
text and with the column of the faulty token in it if and only if no flag is in the way. -/
theorem column_eq_iff (hr : r.PassErrors) {ts : List Text}
    (hquotes : line.any Tokens.isQuote = false) (htokens : Tokens.ofLine line = .ok ts)
    (hline : line = Text.unwords ts) (h : r.invoke line = .error (.parse e)) :
    ∃ name arguments site j token, ts = name :: arguments ∧ r.Faults name arguments site e ∧
      site.At arguments j ∧ ts[j + 1]? = some token ∧ e.tokens[e.index]? = some token ∧
      token <+: line.drop (Text.columnAt ts (j + 1) - 1) ∧
      (e.line = line ∧ e.column = Text.columnAt ts (j + 1) ↔ site.Kept arguments) := by
  obtain ⟨name, arguments, site, rfl, hfaults⟩ : ∃ name arguments site, ts = name :: arguments ∧
      r.Faults name arguments site e := by
    rcases faults_of_invoke hr h with he | ⟨name, arguments, site, hok, -, hfaults⟩
    · rw [he] at htokens
      cases htokens
    · rw [hok] at htokens
      cases htokens
      exact ⟨name, arguments, site, rfl, hfaults⟩
  obtain ⟨j, token, hat, htoken, hetoken⟩ := hfaults.exists_at
  have hcolumn : token <+: line.drop (Text.columnAt (name :: arguments) (j + 1) - 1) := by
    rw [hline]
    exact Text.prefix_drop_columnAt htoken
  refine ⟨name, arguments, site, j, token, rfl, hfaults, hat, htoken, hetoken, hcolumn, ?_⟩
  constructor
  -- No token has a space in it, so that the line tells the tokens.
  · rintro ⟨heline, -⟩
    have hspace := Tokens.space_notMem_of_mem_ofLine hquotes htokens
    have hespace : ∀ t ∈ e.tokens, ' ' ∉ t := by
      intro t ht
      exact hspace t (hfaults.tokens_subset ht)
    have hne : e.tokens ≠ [] := by
      intro hnil
      simp [hnil] at hetoken
    rw [hline] at heline
    exact hfaults.tokens_eq_iff.1 (Tokens.unwords_injective hespace hspace hne (by simp) heline)
  · intro hkept
    have hetokens := hfaults.tokens_eq_iff.2 hkept
    refine ⟨?_, ?_⟩
    · rw [ParseError.line, hetokens, hline]
    · rw [ParseError.column, hetokens, hfaults.index_eq hat hkept]
      rfl

/-- A line with a flag between the words of the path, for an error in the value of a flag. -/
theorem column_eq_iff_countRegistry :
    let ts : List Text := ["test", "math", "-n", "1", "echo", "hi", "-n", "two"]
    let line := Text.unwords ts
    let e : ParseError := ⟨.invalidNumber "two" "i32",
      ["test", "math", "echo", "-n", "1", "hi", "-n", "two"], 7⟩
    countRegistry.PassErrors ∧ line.any Tokens.isQuote = false ∧ Tokens.ofLine line = .ok ts ∧
      countRegistry.invoke line = .error (.parse e) ∧
      ∃ name arguments site j token, ts = name :: arguments ∧
        countRegistry.Faults name arguments site e ∧ site.At arguments j ∧
        ts[j + 1]? = some token ∧ e.tokens[e.index]? = some token ∧
        token <+: line.drop (Text.columnAt ts (j + 1) - 1) ∧
        (e.line = line ∧ e.column = Text.columnAt ts (j + 1) ↔ site.Kept arguments) := by
  intro ts line e
  have hquotes : line.any Tokens.isQuote = false := by decide +kernel
  have htokens : Tokens.ofLine line = .ok ts := by decide +kernel
  have h : countRegistry.invoke line = .error (.parse e) := by decide +kernel
  exact ⟨passErrors_countRegistry, hquotes, htokens, h,
    column_eq_iff passErrors_countRegistry hquotes htokens rfl h⟩

/-- With a flag among the arguments an error in a parameter is told against another line than the
one that was typed, and with another column than that of its token. -/
theorem column_ne_countRegistry :
    let ts : List Text := ["test", "math", "-n", "1", "add", "x", "2"]
    let line := Text.unwords ts
    let e : ParseError := ⟨.invalidNumber "x" "i32", ["test", "math", "add", "x", "2"], 3⟩
    countRegistry.PassErrors ∧ line.any Tokens.isQuote = false ∧ Tokens.ofLine line = .ok ts ∧
      countRegistry.invoke line = .error (.parse e) ∧ e.line ≠ line ∧
      e.tokens[e.index]? = ts[5]? ∧ e.column = 15 ∧ Text.columnAt ts 5 = 20 := by
  intro ts line e
  refine ⟨passErrors_countRegistry, ?_⟩
  decide +kernel

end Registry

end LineDispatch
