import LineDispatch.Proofs.Controller.Dispatch
import LineDispatch.Proofs.Reader.Agreement
import LineDispatch.Proofs.Registry.Faults

/-!
# Where flags stand in a call

A controller command answers by the parameters and the flags of a call, in
whatever order they were given: the words of the path are parameters, and reading
the rest agrees over any two such calls.  The order shows in one place, which is
an error in the value of a flag.  Both calls then give the same fault, each told
against its own tokens (`Command.AnswersAlike`).
-/

namespace LineDispatch

namespace Command

/-- Whether two calls of a command get the same answer, or both fail behind the same words of the
path with one fault in the value of one flag. -/
inductive AnswersAlike (command : Command) (c c' : Context) : Prop
  | same (h : command.invoke c = command.invoke c')
  | flagValue {words : Nat} {type : ArgumentType} {key : Text} {e e' : ParseError}
    (h : Reader.flag { context := c.skip words } type key = .error (.parse e))
    (h' : Reader.flag { context := c'.skip words } type key = .error (.parse e'))
    (hfault : e.fault = e'.fault)
    (hinvoke : command.invoke c = .error (.parse (e.rebase (c.parameters.take words))))
    (hinvoke' : command.invoke c' = .error (.parse (e'.rebase (c'.parameters.take words))))

variable {tree : Controller} {c c' : Context}

theorem answersAlike_of_sameArguments {parsers : TypeParsers} (hparsers : parsers.Discreet)
    (hsame : c.SameArguments c') :
    (controller tree parsers).AnswersAlike c c' := by
  have hpath : tree.resolve c.parameters = tree.resolve c'.parameters :=
    congrArg tree.resolve hsame.parameters
  cases hres : tree.resolve c.parameters with
  | error e =>
      apply AnswersAlike.same
      rw [invoke_controller_of_error parsers hres,
        invoke_controller_of_error parsers (hpath.symm.trans hres)]
  | ok res =>
      have hinvoke := invoke_controller_of_ok parsers hres
      have hinvoke' := invoke_controller_of_ok parsers (hpath.symm.trans hres)
      have hwords : c.parameters.take res.consumed = c'.parameters.take res.consumed :=
        congrArg (List.take res.consumed) hsame.parameters
      rcases res.operation.invoke_eq_or_match hparsers (hsame.skip res.consumed) with
        heq | ⟨e, e', h, h', hmatch⟩
      · apply AnswersAlike.same
        rw [hinvoke, hinvoke', heq, hwords]
      · rw [h, mapError_error] at hinvoke
        rw [h', mapError_error] at hinvoke'
        cases hmatch with
        | same =>
            apply AnswersAlike.same
            rw [hinvoke, hinvoke', hwords]
        | flagValue hflag hflag' hfault => exact .flagValue hflag hflag' hfault hinvoke hinvoke'

/-- Calls with the same parameters and flags are answered alike, and so are arguments that come to
the same parameters and flags. -/
theorem answersAlike_controller (tree : Controller) (parsers : TypeParsers)
    (hparsers : parsers.Discreet) :
    (∀ c c' : Context, c.SameArguments c' → (controller tree parsers).AnswersAlike c c') ∧
      ∀ (arguments arguments' : List Text) (flags : Flags),
        Flags.positional arguments = Flags.positional arguments' →
        Flags.extract arguments = .ok flags → Flags.extract arguments' = .ok flags →
        ∃ c c', Context.ofTokens arguments = .ok c ∧ Context.ofTokens arguments' = .ok c' ∧
          (controller tree parsers).AnswersAlike c c' := by
  have halike : ∀ c c' : Context, c.SameArguments c' →
      (controller tree parsers).AnswersAlike c c' :=
    fun c c' hsame => answersAlike_of_sameArguments hparsers hsame
  refine ⟨halike, ?_⟩
  intro arguments arguments' flags hpositional hflags hflags'
  refine ⟨⟨Flags.positional arguments, flags, arguments⟩,
    ⟨Flags.positional arguments', flags, arguments'⟩, ?_, ?_, halike _ _ ⟨hpositional, rfl⟩⟩
  · rw [Context.ofTokens, hflags]
    rfl
  · rw [Context.ofTokens, hflags']
    rfl

theorem discreet_countParsers : Registry.countParsers.Discreet := by
  intro type plan h
  rw [Registry.countParsers, Table.get?_insert] at h
  split at h
  · cases h
    exact (ReadStep.plain_script _).discreet
  · cases h

/-- The flag behind the path or at the end, with a value that does not fit: one fault, told at two
places. -/
theorem answersAlike_countTree :
    let command : Command := .controller Registry.countTree Registry.countParsers
    let flags : Flags := Table.insert {} "-n" (some "two")
    let c : Context := ⟨["math", "echo", "hi"], flags, ["math", "echo", "-n", "two", "hi"]⟩
    let c' : Context := ⟨["math", "echo", "hi"], flags, ["math", "echo", "hi", "-n", "two"]⟩
    c.SameArguments c' ∧ Context.ofTokens c.tokens = .ok c ∧ Context.ofTokens c'.tokens = .ok c' ∧
      command.AnswersAlike c c' ∧
      command.invoke c = .error (.parse ⟨.invalidNumber "two" "i32", c.tokens, 3⟩) ∧
      command.invoke c' = .error (.parse ⟨.invalidNumber "two" "i32", c'.tokens, 4⟩) := by
  intro command flags c c'
  have hc : Context.ofTokens c.tokens = .ok c := by decide +kernel
  have hc' : Context.ofTokens c'.tokens = .ok c' := by decide +kernel
  obtain ⟨-, htokens⟩ :=
    answersAlike_controller Registry.countTree Registry.countParsers discreet_countParsers
  obtain ⟨d, d', hd, hd', halike⟩ := htokens c.tokens c'.tokens flags (by decide +kernel)
    (by decide +kernel) (by decide +kernel)
  cases hc.symm.trans hd
  cases hc'.symm.trans hd'
  exact ⟨⟨rfl, rfl⟩, hc, hc', halike, by decide +kernel, by decide +kernel⟩

end Command

end LineDispatch
