import LineDispatch.Interface

/-!
# What a line comes to

A line that some attached registry knows is run by all of these, or by the first
of them, as the settings say.  The answer then holds what each of them made of
it, in their order: its result, or the message for its failure, so that there is
one of the two for each registry and none keeps another's from being there.  A
line that no registry knows comes to the listing alone, or to one message alone,
and to the message exactly if the interface cannot handle it
(`Interface.handle_outcome`).

One registry adds one result or one message in front of an answer
(`contribute_eq`), so that the answers of a list of registries are put after one
another (`foldr_contribute`).
-/

namespace LineDispatch

namespace Registry

/-- The result of the command that a line names, if it gives one. -/
def result? (r : Registry) (line : Text) : Option Text :=
  match r.invoke line with
  | .ok result => some result
  | .error _ => none

/-- The failure of a line, if it fails. -/
def failure? (r : Registry) (line : Text) : Option CommandError :=
  match r.invoke line with
  | .ok _ => none
  | .error e => some e

end Registry

namespace Answer

/-- One answer after the other. -/
instance : Append Answer := ⟨fun a b => ⟨a.results ++ b.results, a.messages ++ b.messages⟩⟩

@[simp] theorem results_append (a b : Answer) : (a ++ b).results = a.results ++ b.results := rfl

@[simp] theorem messages_append (a b : Answer) : (a ++ b).messages = a.messages ++ b.messages := rfl

/-- The number of results and messages together. -/
def size (a : Answer) : Nat := a.results.length + a.messages.length

theorem size_append (a b : Answer) : (a ++ b).size = a.size + b.size := by
  simp only [size, results_append, messages_append, List.length_append]
  omega

end Answer

namespace Interface

variable {i : Interface} {line : Text}

/-- The attached registries that know the command of a line, in order. -/
def capable (i : Interface) (line : Text) : List Registry := i.handlers.filter (·.canHandle line)

/-- What a list of registries makes of a line: the results of those that have one, and the messages
for the failures of the others. -/
def answerOf (i : Interface) (line : Text) (registries : List Registry) : Answer :=
  ⟨registries.filterMap (·.result? line),
    registries.filterMap fun r => (r.failure? line).map i.describe⟩

/-- The interface with a line run by every registry that knows it, or only by the first. -/
def withEveryHandler (i : Interface) (every : Bool) : Interface :=
  { i with settings := { i.settings with everyHandler := every } }

/-! ## Registries one by one -/

theorem answerOf_cons (i : Interface) (line : Text) (r : Registry) (rest : List Registry) :
    i.answerOf line (r :: rest) = i.answerOf line [r] ++ i.answerOf line rest := by
  rw [← List.singleton_append]
  simp only [answerOf, List.filterMap_append]
  rfl

theorem contribute_eq (i : Interface) (line : Text) (r : Registry) (rest : Answer) :
    i.contribute line r rest = i.answerOf line [r] ++ rest := by
  unfold contribute answerOf Registry.result? Registry.failure?
  cases h : r.invoke line <;> simp [h] <;> rfl

theorem foldr_contribute (i : Interface) (line : Text) (registries : List Registry) :
    registries.foldr (i.contribute line) {} = i.answerOf line registries := by
  induction registries with
  | nil => rfl
  | cons r rest ih => rw [List.foldr_cons, ih, contribute_eq, answerOf_cons i line r rest]

/-- Each registry has a result or a failure. -/
theorem size_answerOf (i : Interface) (line : Text) (registries : List Registry) :
    (i.answerOf line registries).size = registries.length := by
  induction registries with
  | nil => rfl
  | cons r rest ih =>
      have hone : (i.answerOf line [r]).size = 1 := by
        unfold answerOf Registry.result? Registry.failure?
        cases h : r.invoke line <;> simp [h, Answer.size]
      rw [answerOf_cons i line r rest, Answer.size_append, hone, ih, List.length_cons, Nat.add_comm]

/-! ## Lines -/

theorem accepts_eq_false_iff : i.accepts line = false ↔ i.capable line = [] := by
  simp [accepts, capable]

theorem accepts_of_capable (h : i.capable line ≠ []) : i.accepts line = true := by
  rw [← Bool.not_eq_false, accepts_eq_false_iff]
  exact h

/-- A line that is known somewhere is run by the chosen registries. -/
theorem handle_of_capable (h : i.capable line ≠ []) :
    i.handle line = i.answerOf line
      (if i.settings.everyHandler then i.capable line else (i.capable line).take 1) := by
  have haccepts := accepts_of_capable h
  have hhelp : i.isHelp line = false := by simp [isHelp, haccepts]
  have hcan : i.canHandle line = true := by simp [canHandle, haccepts]
  rw [handle, hhelp, hcan, ← foldr_contribute]
  rfl

/-- A line that is known nowhere is answered with the listing or with one message. -/
theorem handle_of_not_capable (h : i.capable line = []) :
    i.handle line =
      if i.canHandle line then { results := [i.helpListing .plain] }
      else { messages := [i.unhandled line] } := by
  have hcan : i.canHandle line = i.isHelp line := by
    rw [canHandle, accepts_eq_false_iff.2 h, Bool.or_false]
  rw [handle, hcan]
  cases i.isHelp line <;> rfl

/-- How many registries run a line changes neither which know it nor what they make of it. -/
theorem handle_withEveryHandler {first : Registry} {rest : List Registry}
    (h : i.capable line = first :: rest) (every : Bool) :
    (i.withEveryHandler every).handle line =
      i.answerOf line (if every then first :: rest else [first]) := by
  have hcapable : (i.withEveryHandler every).capable line = first :: rest := h
  have hne : (i.withEveryHandler every).capable line ≠ [] := by
    rw [hcapable]
    exact List.cons_ne_nil _ _
  rw [handle_of_capable hne, hcapable]
  rfl

/-- The lines that cannot be handled are those that come to one message and that no registry
knows. -/
theorem canHandle_eq_false_iff :
    i.canHandle line = false ↔
      i.capable line = [] ∧ ∃ message, i.handle line = { messages := [message] } := by
  constructor
  · intro hcan
    have haccepts : i.accepts line = false := (Bool.or_eq_false_iff.1 hcan).2
    have hnone := accepts_eq_false_iff.1 haccepts
    refine ⟨hnone, i.unhandled line, ?_⟩
    rw [handle_of_not_capable hnone, hcan]
    rfl
  · rintro ⟨hnone, message, hmessage⟩
    rw [handle_of_not_capable hnone] at hmessage
    cases hcan : i.canHandle line with
    | false => rfl
    | true =>
        rw [hcan] at hmessage
        cases hmessage

/-- What a line comes to, whichever registries are attached and however the interface is set. -/
theorem handle_outcome (i : Interface) (line : Text) :
    let capable := i.handlers.filter (·.canHandle line)
    let ran := if i.settings.everyHandler then capable else capable.take 1
    let answer := i.handle line
    (capable ≠ [] →
      answer.results = ran.filterMap (·.result? line) ∧
        answer.messages = ran.filterMap (fun r => (r.failure? line).map i.describe) ∧
        answer.results.length + answer.messages.length = ran.length) ∧
      (∀ first rest, capable = first :: rest →
        (i.withEveryHandler false).handle line = i.answerOf line [first] ∧
          (i.withEveryHandler true).handle line =
            i.answerOf line [first] ++ i.answerOf line rest) ∧
      (capable = [] →
        answer = { results := [i.helpListing .plain] } ∨
          ∃ message, answer = { messages := [message] }) ∧
      (i.canHandle line = false ↔
        capable = [] ∧ ∃ message, answer = { messages := [message] }) := by
  intro capable ran answer
  refine ⟨fun h => ?_, fun first rest h => ?_, fun h => ?_, canHandle_eq_false_iff⟩
  · have hanswer : answer = i.answerOf line ran := handle_of_capable h
    rw [hanswer]
    exact ⟨rfl, rfl, size_answerOf i line ran⟩
  · have hmany := handle_withEveryHandler h true
    rw [if_pos rfl, answerOf_cons i line first rest] at hmany
    exact ⟨handle_withEveryHandler h false, hmany⟩
  · have hanswer : answer = _ := handle_of_not_capable h
    rw [hanswer]
    cases i.canHandle line with
    | true => exact .inl rfl
    | false => exact .inr ⟨_, rfl⟩

/-- A registry of one command, which always comes to the same. -/
def oneCommand (name : Text) (outcome : Except Text Text) : Registry :=
  (Registry.register {} name (.simple (fun _ => outcome) [])).2

/-- Three registries, of which the last two know `go` and the second of them alone succeeds. -/
def goInterface : Interface where
  handlers := [oneCommand "stop" (.ok "stopped"), oneCommand "go" (.error "broken"),
    oneCommand "go" (.ok "fine")]
  settings := { everyHandler := true }
  help := true

/-- A line that two registries run, of which the first fails, one that is answered with the listing,
and one that cannot be handled. -/
theorem handle_outcome_goInterface :
    let capable := fun line : Text => goInterface.handlers.filter (·.canHandle line)
    let failing := oneCommand "go" (.error "broken")
    (capable "go" ≠ [] ∧ (goInterface.handle "go").results = ["fine".toList] ∧
        (goInterface.handle "go").messages = ["broken".toList]) ∧
      (capable "go" = [failing, oneCommand "go" (.ok "fine")] ∧
        (goInterface.withEveryHandler false).handle "go" = goInterface.answerOf "go" [failing]) ∧
      (capable "help" = [] ∧
        (goInterface.handle "help" = { results := [goInterface.helpListing .plain] } ∨
          ∃ message, goInterface.handle "help" = { messages := [message] })) ∧
      goInterface.canHandle "no" = false ∧
        ∃ message, goInterface.handle "no" = { messages := [message] } := by
  intro capable failing
  have hne : capable "go" ≠ [] := by decide +kernel
  have hgo : capable "go" = [failing, oneCommand "go" (.ok "fine")] := rfl
  have hhelp : capable "help" = [] := by decide +kernel
  have hno : goInterface.canHandle "no" = false := by decide +kernel
  obtain ⟨hran, hsingle, -, -⟩ := handle_outcome goInterface "go"
  refine ⟨⟨hne, ?_, ?_⟩, ⟨hgo, (hsingle _ _ hgo).1⟩, ⟨hhelp, ?_⟩, hno, ?_⟩
  · rw [(hran hne).1]
    decide +kernel
  · rw [(hran hne).2.1]
    decide +kernel
  · exact (handle_outcome goInterface "help").2.2.1 hhelp
  · exact ((handle_outcome goInterface "no").2.2.2.1 hno).2

end Interface

end LineDispatch
