import LineDispatch.Proofs.Interface.Routing
import LineDispatch.Proofs.Registry.Faults
import LineDispatch.Proofs.Suggestion
import LineDispatch.Proofs.Suggestion.Distance
import LineDispatch.Proofs.Tokens.First

/-!
# What is suggested for an unknown name

Names are suggested in two places.  A registry that does not know a name suggests
one of its own, which then cannot be the name itself
(`Registry.command_cases`).  An interface that none of its registries accepts a
line for suggests one of all their names, those of the first registry first and
the word for help last, unless a command has that name
(`Interface.handle_of_not_accepts`).

In both places the suggestion is the first of the closest names
(`suggestSimilar_eq_some_iff`), close being told by the least number of edits
between the names in lower case (`isLeast_editDistance`), which together is
`suggestion_outcome`.
-/

namespace LineDispatch

namespace Registry

/-- A name has a command, or the error suggests another name that has one. -/
theorem command_cases (r : Registry) (name : Text) :
    (∃ command, r.get? name = some command ∧ r.command name = .ok command) ∨
      r.get? name = none ∧ r.command name = .error (.unknownCommand name (r.suggest name)) ∧
        ∀ s, r.suggest name = some s → s ∈ r.commands ∧ s ≠ name := by
  cases hget : r.get? name with
  | some command => exact .inl ⟨command, rfl, command_eq_ok_iff.2 hget⟩
  | none =>
      refine .inr ⟨rfl, by rw [command, hget], fun s hs => ?_⟩
      have hmem : s ∈ r.commands := (suggestSimilar_eq_some_iff.1 hs).mem
      refine ⟨hmem, ?_⟩
      rintro rfl
      have hknown : (r.get? s).isSome = true := Table.mem_keys_iff.1 hmem
      rw [hget] at hknown
      cases hknown

end Registry

namespace Interface

variable {i : Interface} {line name : Text} {arguments : List Text}

theorem knownNames_eq (i : Interface) :
    i.knownNames = i.handlers.flatMap Registry.commands ++
      if i.help = true ∧ helpWord ∉ i.commands then [helpWord] else [] := by
  unfold knownNames
  by_cases h : i.help = true ∧ helpWord ∉ i.commands
  · rw [if_pos (by simpa using h), if_pos h]
    rfl
  · rw [if_neg (by simpa using h), if_neg h, List.append_nil]
    rfl

/-- A line whose command no registry knows is answered with the listing, or with the one message that
its command is unknown. -/
theorem handle_of_not_accepts (htokens : Tokens.ofLine line = .ok (name :: arguments))
    (haccepts : i.accepts line = false) :
    i.handle line =
      if i.isHelp line then { results := [i.helpListing .plain] }
      else { messages := [unknownCommand ++ ' ' ::
        (CommandError.unknownCommand name (suggestSimilar name i.knownNames)).message] } := by
  have hcan : i.canHandle line = i.isHelp line := by rw [canHandle, haccepts, Bool.or_false]
  rw [handle_of_not_capable (accepts_eq_false_iff.1 haccepts), hcan, unhandled, htokens]

end Interface

open Interface in
/-- The distance of two names is the least number of edits between them in lower case.  What is
suggested is the first of the closest candidates, and nothing if none is close enough.  So a registry
suggests for an unknown name another one that it knows, and an interface one of the names of its
registries, in their order, or the word for help, which comes last. -/
theorem suggestion_outcome :
    (∀ a b : Text, IsLeast {n | Edits n a.lowercase b.lowercase} (nameDistance a b)) ∧
      (∀ (name : Text) (candidates : List Text),
        (suggestSimilar name candidates = none ↔
          ∀ x ∈ candidates, suggestionDistance < nameDistance name x) ∧
        ∀ c, suggestSimilar name candidates = some c ↔ FirstClosest name candidates c) ∧
      (∀ (r : Registry) (name : Text),
        (∃ command, r.get? name = some command ∧ r.command name = .ok command) ∨
          r.get? name = none ∧
            r.command name = .error (.unknownCommand name (suggestSimilar name r.commands)) ∧
            ∀ s, suggestSimilar name r.commands = some s → s ∈ r.commands ∧ s ≠ name) ∧
      ∀ (i : Interface) (line : Text) (ts : List Text), Tokens.ofLine line = .ok ts →
        line.isBlank = false → (∀ r ∈ i.handlers, r.canHandle line = false) →
          ∃ name arguments, ts = name :: arguments ∧
            i.handle line =
              if i.isHelp line then { results := [i.helpListing .plain] }
              else { messages := [unknownCommand ++ ' ' ::
                (CommandError.unknownCommand name (suggestSimilar name
                  (i.handlers.flatMap Registry.commands ++
                    if i.help = true ∧ helpWord ∉ i.commands then [helpWord] else []))).message] } := by
  refine ⟨fun a b => isLeast_editDistance a.lowercase b.lowercase, fun name candidates =>
    ⟨suggestSimilar_eq_none_iff, fun c => suggestSimilar_eq_some_iff⟩, Registry.command_cases,
    fun i line ts htokens hblank hrefused => ?_⟩
  have haccepts : i.accepts line = false := List.any_eq_false.2 fun r hr => by simp [hrefused r hr]
  cases ts with
  | nil =>
      rw [Tokens.ofLine_eq_ok_nil_iff.1 htokens] at hblank
      cases hblank
  | cons name arguments =>
      refine ⟨name, arguments, rfl, ?_⟩
      rw [handle_of_not_accepts htokens haccepts, knownNames_eq]

open Interface in
/-- Two registries with commands at the same distance from a name, and the word for help at that
distance too: the command of the first registry is suggested. -/
theorem suggestion_outcome_tie :
    let i : Interface := { handlers := [oneCommand "Hell" (.ok "a"), oneCommand "Held" (.ok "b")],
                           help := true }
    let line : Text := "heLt me"
    Tokens.ofLine line = .ok ["heLt".toList, "me".toList] ∧ line.isBlank = false ∧
      (∀ r ∈ i.handlers, r.canHandle line = false) ∧
      i.handle line = { messages := [
        "Unknown command. No command with the name 'heLt' exists! Did you mean 'Hell'?".toList] } := by
  intro i line
  have htokens : Tokens.ofLine line = .ok ["heLt".toList, "me".toList] := by decide +kernel
  have hblank : line.isBlank = false := by decide +kernel
  have hrefused : ∀ r ∈ i.handlers, r.canHandle line = false := by
    intro r hr
    obtain rfl | rfl : r = oneCommand "Hell" (.ok "a") ∨ r = oneCommand "Held" (.ok "b") := by
      simpa [i] using hr
    · decide +kernel
    · decide +kernel
  obtain ⟨-, -, -, hinterface⟩ := suggestion_outcome
  obtain ⟨name, arguments, hts, hhandle⟩ := hinterface i line _ htokens hblank hrefused
  obtain ⟨rfl, rfl⟩ := List.cons.inj hts
  refine ⟨htokens, hblank, hrefused, ?_⟩
  rw [hhandle]
  decide +kernel

end LineDispatch
