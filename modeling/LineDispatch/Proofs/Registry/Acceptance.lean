import LineDispatch.Proofs.Registry.Faults
import LineDispatch.Proofs.Tokens.First

/-!
# Accepting a line and running it

A registry looks at a line twice, once to tell whether it accepts it and once to
run it.  The two agree (`Registry.invoke_refuses_iff`): a line is accepted
exactly if running it does not fail for one of three reasons, that it is blank,
that a quote in it is never closed, or that no command has the name it begins
with; and each of the three is reported for just these lines.

That a refused line is reported for its own reason is plain from the order in
which the line is gone through.  What is left to see is that the command, once
it is found, raises none of these errors itself: neither the reading of flags,
nor the path, nor the binding of arguments, nor a type parser of any depth
(`Registry.ofCommand_of_invoke`).
-/

namespace LineDispatch

/-- Whether an error is raised by a command that was found, and not on the way to it. -/
def CommandError.OfCommand : CommandError → Prop
  | .emptyCommand | .unknownCommand _ _ => False
  | .parse e => ∀ d, e.fault ≠ .unclosedGroup d
  | .missingArgument _ _ | .failed _ => True

/-! ## What commands raise -/

theorem CommandError.OfCommand.rebase {e : CommandError} (h : e.OfCommand) (front : List Text) :
    (e.rebase front).OfCommand := by
  cases e with
  | parse e => exact h
  | emptyCommand | unknownCommand | missingArgument | failed => exact h

theorem ScalarKind.fault_ne_unclosedGroup {kind : ScalarKind} {token : Text} {fault : ParseFault}
    (h : kind.coerce token = .error fault) (d : Char) : fault ≠ .unclosedGroup d := by
  rcases coerce_eq_error h with ⟨expected, rfl⟩ | ⟨rfl, -⟩
  · exact ParseFault.noConfusion
  · exact ParseFault.noConfusion

theorem Context.Raises.ofCommand {c : Context} {e : CommandError} (h : c.Raises e) :
    e.OfCommand := by
  cases e with
  | emptyCommand | unknownCommand => exact h
  | missingArgument | failed => trivial
  | parse e =>
      intro d
      have hfaults : c.Faults e := h
      cases hfaults with
      | parameter _ hfault => exact ScalarKind.fault_ne_unclosedGroup hfault d
      | flagValue _ _ _ hfault => exact ScalarKind.fault_ne_unclosedGroup hfault d

theorem Command.ofCommand_of_invoke {command : Command} (hcommand : command.PassErrors)
    {c : Context} (hc : c.Itemized) {e : CommandError} (h : command.invoke c = .error e) :
    e.OfCommand := by
  rcases raises_of_invoke hcommand hc h with ⟨message, rfl⟩ | ⟨_, _, _, _, _, _, hraised, rfl⟩
  · trivial
  · exact hraised.ofCommand.rebase _

namespace Registry

variable {r : Registry} {line name : Text} {arguments : List Text}

/-- A line that names a command fails only for what the command raises. -/
theorem ofCommand_of_invoke (hr : r.PassErrors)
    (htokens : Tokens.ofLine line = .ok (name :: arguments)) (hname : r.contains name = true)
    {e : CommandError} (h : r.invoke line = .error e) : e.OfCommand := by
  rw [invoke, htokens] at h
  rcases bind_eq_error_iff.1 h with hunknown | ⟨command, hcommand, h⟩
  · obtain ⟨command, hcommand⟩ := Option.isSome_iff_exists.1 hname
    rw [command_eq_ok_iff.2 hcommand] at hunknown
    cases hunknown
  · split at h
    · rename_i e' hcontext
      obtain ⟨flag, index, rfl, -, -⟩ := Flags.extract_eq_error (map_eq_error_iff.1 hcontext)
      cases h
      intro d
      exact ParseFault.noConfusion
    · rename_i c hcontext
      obtain ⟨raised, hraised, rfl⟩ := mapError_eq_error_iff.1 h
      have hpass : command.PassErrors := hr name command (command_eq_ok_iff.1 hcommand)
      have hof : raised.OfCommand :=
        Command.ofCommand_of_invoke hpass (Context.itemized_of_ofTokens hcontext) hraised
      exact hof.rebase [name]

/-! ## The lines that no command is found for -/

theorem invoke_of_ofLine_eq_error {e : ParseError} (h : Tokens.ofLine line = .error e) :
    r.invoke line = .error (.parse e) := by
  rw [invoke, h]

theorem invoke_of_ofLine_eq_nil (h : Tokens.ofLine line = .ok []) :
    r.invoke line = .error .emptyCommand := by
  rw [invoke, h]

theorem invoke_of_contains_eq_false (htokens : Tokens.ofLine line = .ok (name :: arguments))
    (hname : r.contains name = false) :
    r.invoke line = .error (.unknownCommand name (r.suggest name)) := by
  have hnone : r.get? name = none := by
    rw [Table.contains, Option.isSome_eq_false_iff, Option.isNone_iff_eq_none] at hname
    exact hname
  rw [invoke, htokens]
  dsimp only
  rw [Registry.command, hnone]
  rfl

/-- A line is blank, or a quote in it is never closed, or it names no command, or it names one and
then fails only for what that raises. -/
theorem invoke_cases (hr : r.PassErrors) (line : Text) :
    (Tokens.ofLine line = .ok [] ∧ r.canHandle line = false ∧
        r.invoke line = .error .emptyCommand) ∨
      (∃ e d, Tokens.ofLine line = .error e ∧ e.fault = .unclosedGroup d ∧
        r.canHandle line = false ∧ r.invoke line = .error (.parse e)) ∨
      (∃ name arguments, Tokens.ofLine line = .ok (name :: arguments) ∧ name ∉ r.commands ∧
        r.canHandle line = false ∧
        r.invoke line = .error (.unknownCommand name (r.suggest name))) ∨
      ∃ name arguments, Tokens.ofLine line = .ok (name :: arguments) ∧ name ∈ r.commands ∧
        r.canHandle line = true ∧ ∀ e, r.invoke line = .error e → e.OfCommand := by
  rw [canHandle]
  cases htokens : Tokens.ofLine line with
  | error e =>
      obtain ⟨-, d, hd⟩ := Tokens.located_of_ofLine htokens
      exact .inr (.inl ⟨e, d, rfl, hd, rfl, invoke_of_ofLine_eq_error htokens⟩)
  | ok ts =>
      cases ts with
      | nil => exact .inl ⟨rfl, rfl, invoke_of_ofLine_eq_nil htokens⟩
      | cons name arguments =>
          right
          right
          have hmem : name ∈ r.commands ↔ r.contains name = true := Table.mem_keys_iff
          cases hname : r.contains name with
          | false =>
              left
              refine ⟨name, arguments, rfl, ?_, hname, invoke_of_contains_eq_false htokens hname⟩
              rw [hmem, hname]
              exact Bool.false_ne_true
          | true =>
              right
              exact ⟨name, arguments, rfl, hmem.2 hname, hname,
                fun e he => ofCommand_of_invoke hr htokens hname he⟩

/-- What a line failed for, told from the error. -/
theorem invoke_error_cases (hr : r.PassErrors) {e : CommandError} (h : r.invoke line = .error e) :
    (e = .emptyCommand ∧ Tokens.ofLine line = .ok []) ∨
      (∃ unclosed, e = .parse unclosed ∧ Tokens.ofLine line = .error unclosed) ∨
      (∃ name arguments, e = .unknownCommand name (r.suggest name) ∧
        Tokens.ofLine line = .ok (name :: arguments) ∧ name ∉ r.commands) ∨
      e.OfCommand := by
  rcases invoke_cases hr line with ⟨htokens, -, hinvoke⟩ | ⟨unclosed, d, htokens, -, -, hinvoke⟩ |
    ⟨name, arguments, htokens, hname, -, hinvoke⟩ | ⟨name, arguments, -, -, -, hraised⟩
  · have he : e = _ := Except.error.inj (h.symm.trans hinvoke)
    exact .inl ⟨he, htokens⟩
  · have he : e = _ := Except.error.inj (h.symm.trans hinvoke)
    exact .inr (.inl ⟨unclosed, he, htokens⟩)
  · have he : e = _ := Except.error.inj (h.symm.trans hinvoke)
    exact .inr (.inr (.inl ⟨name, arguments, he, htokens, hname⟩))
  · exact .inr (.inr (.inr (hraised e h)))

/-! ## Agreement -/

theorem invoke_eq_emptyCommand_iff (hr : r.PassErrors) :
    r.invoke line = .error .emptyCommand ↔ Tokens.ofLine line = .ok [] := by
  constructor
  · intro h
    rcases invoke_error_cases hr h with ⟨-, htokens⟩ | ⟨_, he, -⟩ | ⟨_, _, he, -, -⟩ | hof
    · exact htokens
    · cases he
    · cases he
    · exact hof.elim
  · exact invoke_of_ofLine_eq_nil

theorem invoke_eq_unclosedGroup_iff (hr : r.PassErrors) {e : ParseError} :
    (r.invoke line = .error (.parse e) ∧ ∃ d, e.fault = .unclosedGroup d) ↔
      Tokens.ofLine line = .error e := by
  constructor
  · rintro ⟨h, d, hd⟩
    rcases invoke_error_cases hr h with ⟨he, -⟩ | ⟨_, he, htokens⟩ | ⟨_, _, he, -, -⟩ | hof
    · cases he
    · cases he
      exact htokens
    · cases he
    · exact absurd hd (hof d)
  · intro htokens
    exact ⟨invoke_of_ofLine_eq_error htokens, (Tokens.located_of_ofLine htokens).2⟩

theorem invoke_eq_unknownCommand_iff (hr : r.PassErrors) {suggestion : Option Text} :
    r.invoke line = .error (.unknownCommand name suggestion) ↔
      suggestion = r.suggest name ∧
        ∃ arguments, Tokens.ofLine line = .ok (name :: arguments) ∧ name ∉ r.commands := by
  constructor
  · intro h
    rcases invoke_error_cases hr h with ⟨he, -⟩ | ⟨_, he, -⟩ | ⟨_, arguments, he, htokens, hname⟩ |
      hof
    · cases he
    · cases he
    · cases he
      exact ⟨rfl, arguments, htokens, hname⟩
    · exact hof.elim
  · rintro ⟨rfl, arguments, htokens, hname⟩
    refine invoke_of_contains_eq_false htokens ?_
    rw [commands, Table.mem_keys_iff, Bool.not_eq_true] at hname
    exact hname

/-- A line is accepted if and only if only its command can fail on it. -/
theorem canHandle_iff_ofCommand (hr : r.PassErrors) :
    r.canHandle line = true ↔ ∀ e, r.invoke line = .error e → e.OfCommand := by
  rcases invoke_cases hr line with ⟨-, hcan, hinvoke⟩ | ⟨e, d, -, hd, hcan, hinvoke⟩ |
    ⟨name, arguments, -, -, hcan, hinvoke⟩ | ⟨name, arguments, -, -, hcan, hraised⟩
  · refine iff_of_false (by simp [hcan]) fun h => ?_
    exact h _ hinvoke
  · refine iff_of_false (by simp [hcan]) fun h => ?_
    exact h _ hinvoke d hd
  · refine iff_of_false (by simp [hcan]) fun h => ?_
    exact h _ hinvoke
  · exact iff_of_true hcan hraised

/-- A line is refused as blank, for a quote that is never closed or for an unknown name exactly if
that is what is wrong with it, and it is accepted exactly if it is not refused. -/
theorem invoke_refuses_iff (hr : r.PassErrors) (line : Text) :
    (r.invoke line = .error .emptyCommand ↔ line.trim = []) ∧
      (line.trim = [] ↔ Tokens.ofLine line = .ok []) ∧
      (∀ e, (r.invoke line = .error (.parse e) ∧ ∃ d, e.fault = .unclosedGroup d) ↔
        Tokens.ofLine line = .error e) ∧
      (∀ name, (∃ suggestion, r.invoke line = .error (.unknownCommand name suggestion)) ↔
        ∃ arguments, Tokens.ofLine line = .ok (name :: arguments) ∧ name ∉ r.commands) ∧
      (r.canHandle line = true ↔
        r.invoke line ≠ .error .emptyCommand ∧
          (∀ e d, r.invoke line = .error (.parse e) → e.fault ≠ .unclosedGroup d) ∧
          ∀ name suggestion, r.invoke line ≠ .error (.unknownCommand name suggestion)) := by
  have hblank : line.trim = [] ↔ Tokens.ofLine line = .ok [] :=
    Text.trim_eq_nil_iff.trans Tokens.ofLine_eq_ok_nil_iff.symm
  refine ⟨(invoke_eq_emptyCommand_iff hr).trans hblank.symm, hblank,
    fun e => invoke_eq_unclosedGroup_iff hr, fun name => ?_, ?_⟩
  · constructor
    · rintro ⟨suggestion, h⟩
      exact ((invoke_eq_unknownCommand_iff hr).1 h).2
    · intro h
      exact ⟨r.suggest name, (invoke_eq_unknownCommand_iff hr).2 ⟨rfl, h⟩⟩
  · rw [canHandle_iff_ofCommand hr]
    constructor
    · intro h
      exact ⟨h _, fun e d he => h _ he d, fun name suggestion => h _⟩
    · rintro ⟨hempty, hclosed, hunknown⟩ e he
      cases e with
      | emptyCommand => exact hempty he
      | unknownCommand name suggestion => exact hunknown name suggestion he
      | parse e => exact fun d => hclosed e d he
      | missingArgument | failed => trivial

/-- A line that is accepted, so that its name is not unknown, and one line for each of the three
reasons to refuse a line. -/
theorem invoke_refuses_iff_countRegistry :
    countRegistry.PassErrors ∧
      (countRegistry.canHandle "test math add x 2" = true ∧
        ∀ name suggestion,
          countRegistry.invoke "test math add x 2" ≠ .error (.unknownCommand name suggestion)) ∧
      countRegistry.invoke "\t " = .error .emptyCommand ∧
      (∃ e, countRegistry.invoke "test \"x" = .error (.parse e) ∧
        e.fault = .unclosedGroup '"') ∧
      ∃ suggestion,
        countRegistry.invoke "\"\" x" = .error (.unknownCommand [] suggestion) := by
  have hr := passErrors_countRegistry
  have hcan : countRegistry.canHandle "test math add x 2" = true := by decide +kernel
  obtain ⟨-, -, -, -, haccepted⟩ := invoke_refuses_iff hr "test math add x 2"
  obtain ⟨hblank, -⟩ := invoke_refuses_iff hr "\t "
  obtain ⟨-, -, hunclosed, -⟩ := invoke_refuses_iff hr "test \"x"
  obtain ⟨-, -, -, hunknown, -⟩ := invoke_refuses_iff hr "\"\" x"
  refine ⟨hr, ⟨hcan, (haccepted.1 hcan).2.2⟩, hblank.2 (by decide +kernel), ?_, ?_⟩
  · have htokens : Tokens.ofLine "test \"x" =
        .error ⟨.unclosedGroup '"', ["test", "\"x"], 1⟩ := by decide +kernel
    exact ⟨_, ((hunclosed _).2 htokens).1, rfl⟩
  · exact (hunknown []).2 ⟨["x".toList], by decide +kernel⟩

end Registry

end LineDispatch
