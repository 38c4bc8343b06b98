import LineDispatch.Proofs.Interface.Routing
import LineDispatch.Proofs.Suggestion
import LineDispatch.Proofs.Tokens.Words

/-!
# Lines whose first token is the word for help

Whether a line is answered with the listing is told from its words, which are
cut at spaces alone, and what its command is from its tokens, which are trimmed
of all blanks and stripped of quotes.  The two agree on a line that begins with
the bare word, with nothing but spaces in front and a space or the end behind.
Any other line with that first token, in quotes or with another blank beside it,
is refused as an unknown command, and the message suggests the word for help, or
a command with the same name in other letters (`Interface.handle_help_iff`).
-/

namespace LineDispatch.Interface

variable {i : Interface} {line : Text} {rest : List Text}

theorem accepts_of_free (hfree : ∀ r ∈ i.handlers, r.contains helpWord = false)
    (htokens : Tokens.ofLine line = .ok (helpWord :: rest)) : i.accepts line = false := by
  rw [accepts, List.any_eq_false]
  intro r hr
  rw [Registry.canHandle, htokens]
  simp only [hfree r hr, Bool.false_eq_true, not_false_iff]

theorem mem_knownNames (hhelp : i.help = true) : helpWord ∈ i.knownNames := by
  rw [knownNames, hhelp, Bool.true_and]
  split
  · exact List.mem_append_right _ List.mem_cons_self
  · rename_i h
    simpa using h

/-- The word for help is always suggested, if not another name that differs only in case. -/
theorem exists_suggestion (hhelp : i.help = true) :
    ∃ s ∈ i.knownNames, suggestSimilar helpWord i.knownNames = some s ∧
      nameDistance helpWord s = 0 := by
  have hzero : nameDistance helpWord helpWord = 0 := by decide +kernel
  obtain ⟨s, hs, hsuggest, hle⟩ :=
    exists_suggestSimilar (mem_knownNames hhelp) (by rw [hzero]; exact Nat.zero_le _)
  rw [hzero] at hle
  exact ⟨s, hs, hsuggest, Nat.le_zero.1 hle⟩

/-- Of the lines whose first token is the word for help, those are answered with the listing, and
with nothing else, that begin with the bare word.  The others are reported as unknown. -/
theorem handle_help_iff (hhelp : i.help = true)
    (hfree : ∀ r ∈ i.handlers, r.contains helpWord = false)
    (htokens : Tokens.ofLine line = .ok (helpWord :: rest)) :
    (i.handle line = { results := [i.helpListing .plain] } ↔ Tokens.StartsBare helpWord line) ∧
      (¬ Tokens.StartsBare helpWord line → ∃ s ∈ i.knownNames, nameDistance helpWord s = 0 ∧
        i.handle line = { messages := [unknownCommand ++ ' ' ::
          (CommandError.unknownCommand helpWord (some s)).message] }) := by
  have haccepts := accepts_of_free hfree htokens
  have hhead : (Tokens.plain line).head? = some helpWord ↔ Tokens.StartsBare helpWord line :=
    Tokens.head?_plain_eq_some_iff (by decide) (by decide)
  have hcan : i.canHandle line = true ↔ Tokens.StartsBare helpWord line := by
    simp [canHandle, isHelp, hhelp, haccepts, hhead]
  rw [handle_of_not_capable (accepts_eq_false_iff.1 haccepts)]
  by_cases hbare : Tokens.StartsBare helpWord line
  · simp [hcan.2 hbare, hbare]
  · obtain ⟨s, hs, hsuggest, hzero⟩ := exists_suggestion hhelp
    have hmessage : i.unhandled line = unknownCommand ++ ' ' ::
        (CommandError.unknownCommand helpWord (some s)).message := by
      rw [unhandled, htokens]
      simp only [hsuggest]
    rw [if_neg fun h => hbare (hcan.1 h), hmessage]
    refine ⟨⟨fun h => ?_, fun h => absurd h hbare⟩, fun _ => ⟨s, hs, hzero, rfl⟩⟩
    cases h

/-- An interface without registries that answers the word for help. -/
def helpOnly : Interface := { help := true }

/-- Spaces in front of the bare word do no harm, and a tab does. -/
theorem handle_help_iff_helpOnly :
    let spaced : Text := "  help me"
    let tabbed : Text := "\thelp"
    helpOnly.help = true ∧ (∀ r ∈ helpOnly.handlers, r.contains helpWord = false) ∧
      Tokens.ofLine spaced = .ok (helpWord :: ["me".toList]) ∧ Tokens.ofLine tabbed = .ok [helpWord] ∧
      helpOnly.handle spaced = { results := [helpOnly.helpListing .plain] } ∧
      helpOnly.handle tabbed ≠ { results := [helpOnly.helpListing .plain] } := by
  intro spaced tabbed
  have hfree : ∀ r ∈ helpOnly.handlers, r.contains helpWord = false := by simp [helpOnly]
  have hspaced : Tokens.ofLine spaced = .ok (helpWord :: ["me".toList]) := by decide +kernel
  have htabbed : Tokens.ofLine tabbed = .ok [helpWord] := by decide +kernel
  refine ⟨rfl, hfree, hspaced, htabbed, ?_, ?_⟩
  · exact (handle_help_iff rfl hfree hspaced).1.2 ⟨2, " me".toList, rfl, by simp⟩
  · intro h
    have hbare := (handle_help_iff rfl hfree htabbed).1.1 h
    have hhead := Tokens.head?_plain_of_startsBare (by decide) (by decide) hbare
    exact absurd hhead (by decide +kernel)

/-- The word for help in quotes is reported as unknown, and suggested in the same message. -/
theorem handle_quoted_helpOnly :
    let line : Text := "\"help\""
    (∀ r ∈ helpOnly.handlers, r.contains helpWord = false) ∧
      Tokens.ofLine line = .ok [helpWord] ∧
      helpOnly.handle line = { messages :=
        ["Unknown command. No command with the name 'help' exists! Did you mean 'help'?".toList] } := by
  refine ⟨by simp [helpOnly], ?_⟩
  decide +kernel

end LineDispatch.Interface
