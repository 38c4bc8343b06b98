import LineDispatch.Command
import LineDispatch.Proofs.Controller.Walk
import LineDispatch.Proofs.Text.ByteOrder
import LineDispatch.Proofs.Tokens.Words

/-!
# Completion agrees with resolution

The names offered behind a path are those with which the path goes on: a name is
offered if and only if it begins as asked and resolving the path with the name
behind it accounts for every word (`Controller.AccountsFor`), which means that
each of them names a field, or the last of them an operation.  The names come
sorted by their bytes and each once, and a line of complete words with the
beginning of one more behind them is completed with the names offered behind the
words (`Controller.completions_agree`).

Both sides are told at the scope that the path leads to.  If the path leads to a
scope, resolving goes on there (`accountsFor_append`), and a single word is
accounted for if it names a member (`accountsFor_singleton`).  If it does not,
the walk stops at a word of the path, and of the words behind that none is
accounted for (`accountsFor_of_stop`).
-/

namespace LineDispatch

namespace Controller

variable {c scope : Controller} {name segment beginning : Text} {front path : List Text}

/-! ## Paths that are accounted for -/

/-- Whether resolving a path accounts for all of its words: they lead to an operation that takes
none of them as an argument, or to a scope without a default operation. -/
def AccountsFor (c : Controller) (path : List Text) : Prop :=
  (∃ r, c.resolve path = .ok r ∧ r.consumed = path.length) ∨
    c.resolve path = .error ⟨none, path.length⟩

theorem accountsFor_nil (c : Controller) : c.AccountsFor [] := by
  unfold AccountsFor resolve fallBack
  cases c.defaultOperation <;> simp

theorem accountsFor_append (h : c.reach front = some scope) (back : List Text) :
    c.AccountsFor (front ++ back) ↔ scope.AccountsFor back := by
  unfold AccountsFor
  rw [resolve_append h, List.length_append]
  cases scope.resolve back with
  | ok r => simp [Except.map, Resolution.behind]
  | error e =>
      obtain ⟨segment, depth⟩ := e
      simp [Except.map, PathNotFound.behind]

/-- At most the word at which the walk stops is accounted for. -/
theorem accountsFor_of_stop (h : c.Stops segment) (back : List Text) :
    c.AccountsFor (segment :: back) ↔ c.HasOperation segment ∧ back = [] := by
  unfold AccountsFor
  rw [resolve_of_stop h]
  cases hop : c.selectOperation segment back.length with
  | some op =>
      have hhas : c.HasOperation segment := ⟨op, mem_of_selectOperation hop⟩
      simp [hhas]
  | none =>
      have hhas : ¬ c.HasOperation segment := selectOperation_eq_none_iff.1 hop
      unfold fallBack
      cases c.defaultOperation <;> simp [hhas]

theorem accountsFor_singleton : c.AccountsFor [name] ↔ name ∈ c.memberNames := by
  have hmember : name ∈ c.memberNames ↔ c.HasOperation name ∨ c.field name ≠ none := by
    rw [memberNames, List.mem_append, List.mem_map, Ne, field_eq_none_iff, Classical.not_not,
      HasOperation]
  rw [hmember]
  by_cases hstop : c.Stops name
  · rw [accountsFor_of_stop hstop]
    rcases hstop with h | h <;> simp [h]
  · rw [Stops, not_or] at hstop
    obtain ⟨f, hfield⟩ := Option.ne_none_iff_exists'.1 hstop.2
    have hreach : c.reach [name] = some f.scope := reach_cons_iff.2 ⟨f, hfield, hstop.1, rfl⟩
    have hall : c.AccountsFor ([name] ++ []) := (accountsFor_append hreach []).2 (accountsFor_nil _)
    simp [hstop.2, show c.AccountsFor [name] from hall]

theorem accountsFor_concat_iff :
    c.AccountsFor (path ++ [name]) ↔ ∃ scope, c.reach path = some scope ∧ name ∈ scope.memberNames := by
  cases hpath : c.reach path with
  | some scope => simp [accountsFor_append hpath, accountsFor_singleton]
  | none =>
      obtain ⟨front, segment, back, scope, rfl, hfront, hstop⟩ := exists_stop hpath
      rw [List.append_assoc, List.cons_append, accountsFor_append hfront, accountsFor_of_stop hstop]
      simp

/-! ## The names offered -/

theorem mem_completions_iff :
    name ∈ c.completions path beginning ↔
      beginning <+: name ∧ ∃ scope, c.reach path = some scope ∧ name ∈ scope.memberNames := by
  unfold completions
  cases c.reach path with
  | none => simp
  | some scope =>
      simp only [Table.mem_keys_ofList, List.map_map]
      simp [Function.comp_def, and_comm]

theorem completions_increasing (c : Controller) (path : List Text) (beginning : Text) :
    (c.completions path beginning).Pairwise (· < ·) := by
  unfold completions
  split
  · exact Table.keys_increasing _
  · exact List.Pairwise.nil

end Controller

/-! ## Words typed so far -/

namespace Command

variable {words : List Text} {beginning : Text}

/-- Complete words and the beginning of another are told apart again. -/
theorem words_of_typed (hwords : ∀ w ∈ words, w ≠ [] ∧ ' ' ∉ w) (hbeginning : ' ' ∉ beginning) :
    completeWords (words.flatMap (· ++ [' ']) ++ beginning) = words ∧
      lastWord (words.flatMap (· ++ [' ']) ++ beginning) = beginning := by
  have hplain := Tokens.plain_words hwords beginning
  rw [Tokens.plain_of_space_notMem hbeginning] at hplain
  unfold completeWords lastWord
  rw [hplain]
  rcases List.eq_nil_or_concat beginning with rfl | ⟨front, last, rfl⟩
  -- Nothing behind the last space: the words are complete if there are any.
  · rcases List.eq_nil_or_concat words with rfl | ⟨earlier, w, rfl⟩
    · simp
    · simp [← List.append_assoc]
  -- The beginning does not end in a space.
  · have hlast : last ≠ ' ' := by
      rintro rfl
      simp at hbeginning
    simp [← List.append_assoc, hlast]

end Command

/-! ## Agreement -/

namespace Controller

/-- A name is offered if and only if it begins as asked and the path is resolved with it behind to
the last word; the names are sorted by their bytes, each once; and what can follow a text of
complete words and the beginning of another are the names offered behind these words. -/
theorem completions_agree (c : Controller) (path : List Text) (beginning : Text) :
    (∀ name, name ∈ c.completions path beginning ↔
        beginning <+: name ∧ c.AccountsFor (path ++ [name])) ∧
      (c.completions path beginning).Pairwise (fun a b => Utf8.encode a < Utf8.encode b) ∧
      ∀ parsers, (∀ w ∈ path, w ≠ [] ∧ ' ' ∉ w) → ' ' ∉ beginning →
        (Command.controller c parsers).nextCompletion (path.flatMap (· ++ [' ']) ++ beginning) =
          c.completions path beginning := by
  refine ⟨fun name => ?_, ?_, fun parsers hwords hbeginning => ?_⟩
  · rw [mem_completions_iff, accountsFor_concat_iff]
  · exact (completions_increasing c path beginning).imp Utf8.encode_lt_encode_iff.2
  · obtain ⟨hcomplete, hlast⟩ := Command.words_of_typed hwords hbeginning
    rw [Command.nextCompletion, hcomplete, hlast]

/-- One name is offered for two operations that share it. -/
theorem completions_agree_sumTree :
    let path : List Text := ["calc"]
    let beginning : Text := "a"
    (∀ w ∈ path, w ≠ [] ∧ ' ' ∉ w) ∧ ' ' ∉ beginning ∧
      sumTree.completions path beginning = ["add".toList] ∧
      sumTree.AccountsFor (path ++ ["add".toList]) ∧
      (Command.controller sumTree {}).nextCompletion (path.flatMap (· ++ [' ']) ++ beginning) =
        ["add".toList] := by
  intro path beginning
  have hwords : ∀ w ∈ path, w ≠ [] ∧ ' ' ∉ w := by decide
  have hbeginning : ' ' ∉ beginning := by decide
  have hnames : sumTree.completions path beginning = ["add".toList] := by decide +kernel
  obtain ⟨hmem, -, hnext⟩ := completions_agree sumTree path beginning
  refine ⟨hwords, hbeginning, hnames, ?_, (hnext {} hwords hbeginning).trans hnames⟩
  exact ((hmem "add".toList).1 (hnames ▸ List.mem_cons_self)).2

end Controller

end LineDispatch
