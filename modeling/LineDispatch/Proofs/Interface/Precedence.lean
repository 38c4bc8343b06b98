import LineDispatch.Proofs.Interface.Help
import LineDispatch.Proofs.Tokens.First

/-!
# A command of its own for help

A registry that has a command with the name of the word for help answers the
lines that begin with that word, and the listing stands back.  It does so
because the listing is given for lines that no registry accepts, and acceptance
is a matter of the whole line.  A line with a quote that is never closed is
accepted by none, whatever its first word; if that is the bare word for help,
the line is answered with the listing after all, where any other such line is
reported with the quote.  There is no other exception
(`Interface.handle_ownHelp`).
-/

namespace LineDispatch.Interface

variable {i : Interface} {line : Text}

/-- A line that cannot be cut into tokens is accepted by no registry. -/
theorem accepts_of_ofLine_eq_error {e : ParseError} (h : Tokens.ofLine line = .error e) :
    i.accepts line = false := by
  rw [accepts, List.any_eq_false]
  intro r _
  rw [Registry.canHandle, h]
  simp

theorem accepts_of_ownHelp (hown : ∃ r ∈ i.handlers, r.contains helpWord = true)
    (hbare : Tokens.StartsBare helpWord line) {ts : List Text}
    (htokens : Tokens.ofLine line = .ok ts) : i.accepts line = true := by
  obtain ⟨r, hr, hcontains⟩ := hown
  have hfirst : ts.head? = some helpWord :=
    Tokens.head?_ofLine_of_startsBare (by decide) hbare htokens
  obtain ⟨rest, rfl⟩ := List.head?_eq_some_iff.1 hfirst
  have hhandles : r.canHandle line = true := by
    rw [Registry.canHandle, htokens]
    exact hcontains
  exact List.any_eq_true.2 ⟨r, hr, hhandles⟩

/-- With a command of its own, the word for help is still answered with the listing on lines that
no token can be read from. -/
theorem isHelp_iff_of_ownHelp (hown : ∃ r ∈ i.handlers, r.contains helpWord = true) :
    i.isHelp line = true ↔
      i.help = true ∧ Tokens.StartsBare helpWord line ∧ ∃ e, Tokens.ofLine line = .error e := by
  have hhead : (Tokens.plain line).head? = some helpWord ↔ Tokens.StartsBare helpWord line :=
    Tokens.head?_plain_eq_some_iff (by decide) (by decide)
  rw [isHelp, Bool.and_eq_true, Bool.and_eq_true, beq_iff_eq, hhead, Bool.not_eq_true', and_assoc]
  refine and_congr_right fun _ => and_congr_right fun hbare => ?_
  constructor
  · intro hrefused
    cases htokens : Tokens.ofLine line with
    | error e => exact ⟨e, rfl⟩
    | ok ts =>
        rw [accepts_of_ownHelp hown hbare htokens] at hrefused
        cases hrefused
  · rintro ⟨e, htokens⟩
    exact accepts_of_ofLine_eq_error htokens

/-- Where a registry has a command for help, a line is run by the registries that accept it or
reported, unless it begins with the bare word for help and a quote in it is never closed. -/
theorem handle_ownHelp (hown : ∃ r ∈ i.handlers, r.contains helpWord = true) :
    let unclosed :=
      i.help = true ∧ Tokens.StartsBare helpWord line ∧ ∃ e, Tokens.ofLine line = .error e
    (unclosed → i.capable line = [] ∧ i.handle line = { results := [i.helpListing .plain] }) ∧
      (¬ unclosed →
        i.capable line ≠ [] ∧ i.handle line = i.answerOf line (i.chosen line) ∨
          i.capable line = [] ∧ i.handle line = { messages := [i.unhandled line] }) := by
  intro unclosed
  have hlisting : i.isHelp line = true ↔ unclosed := isHelp_iff_of_ownHelp hown
  constructor
  · intro hunclosed
    obtain ⟨e, htokens⟩ := hunclosed.2.2
    have hnone : i.capable line = [] := accepts_eq_false_iff.1 (accepts_of_ofLine_eq_error htokens)
    have hcan : i.canHandle line = true := by
      rw [canHandle, hlisting.2 hunclosed, Bool.true_or]
    rw [handle_of_not_capable hnone, if_pos hcan]
    exact ⟨hnone, rfl⟩
  · intro hother
    have hhelp : i.isHelp line = false := by
      rw [← Bool.not_eq_true, hlisting]
      exact hother
    by_cases hnone : i.capable line = []
    · have hcan : i.canHandle line = false := by
        rw [canHandle, hhelp, Bool.false_or, accepts_eq_false_iff]
        exact hnone
      right
      rw [handle_of_not_capable hnone, hcan]
      exact ⟨hnone, rfl⟩
    · left
      exact ⟨hnone, handle_of_capable hnone⟩

/-- An interface that answers the word for help, and a registry with a command of its own for it. -/
def ownHelp : Interface where
  handlers := [oneCommand "help" (.ok "custom help")]
  help := true

/-- The command answers, and a quote that is not closed behind its name brings the listing back. -/
theorem handle_ownHelp_custom :
    let closed : Text := "help \"x\""
    let unclosed : Text := "help \"x"
    (∃ r ∈ ownHelp.handlers, r.contains helpWord = true) ∧
      ownHelp.handle closed = { results := ["custom help".toList] } ∧
      ownHelp.handle unclosed = { results := [ownHelp.helpListing .plain] } := by
  intro closed unclosed
  have hown : ∃ r ∈ ownHelp.handlers, r.contains helpWord = true :=
    ⟨_, List.mem_cons_self, by decide +kernel⟩
  refine ⟨hown, ?_, ?_⟩
  · have htokens : Tokens.ofLine closed = .ok [helpWord, "x".toList] := by decide +kernel
    have hclosed : ¬ (ownHelp.help = true ∧ Tokens.StartsBare helpWord closed ∧
        ∃ e, Tokens.ofLine closed = .error e) := by
      rintro ⟨-, -, e, he⟩
      rw [htokens] at he
      cases he
    rcases (handle_ownHelp hown).2 hclosed with ⟨-, hanswer⟩ | ⟨hnone, -⟩
    · rw [hanswer]
      decide +kernel
    · exact absurd hnone (by decide +kernel)
  · have hbare : Tokens.StartsBare helpWord unclosed := ⟨0, " \"x".toList, rfl, by simp⟩
    have htokens : ∃ e, Tokens.ofLine unclosed = .error e :=
      ⟨⟨.unclosedGroup '"', ["help", "\"x"], 1⟩, by decide +kernel⟩
    exact ((handle_ownHelp hown).1 ⟨rfl, hbare, htokens⟩).2

/-- On a line with a quote that is never closed the listing takes the place of the command's own
answer, and neither is the line run nor the quote reported. -/
theorem handle_unclosed_ownHelp :
    let line : Text := "help \"x"
    (∃ r ∈ ownHelp.handlers, r.contains helpWord = true) ∧
      ownHelp.capable line = [] ∧
      ownHelp.handle line = { results := [ownHelp.helpListing .plain] } ∧
      ownHelp.helpListing .plain = "All available commands:\n- help".toList := by
  refine ⟨⟨_, List.mem_cons_self, by decide +kernel⟩, ?_⟩
  decide +kernel

end LineDispatch.Interface
