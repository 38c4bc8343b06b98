import LineDispatch.Controller.Path
import LineDispatch.Tokens

/-!
# Commands

What a name is registered for: a simple command reads its context itself, a
controller command walks the parameters through its scopes to an operation and
calls that with typed arguments.
-/

namespace LineDispatch

/-- A command. -/
inductive Command
  /-- An action on the context, which may fail with a text, and its usage. -/
  | simple (action : Context → Except Text Text) (usage : Text)
  /-- A scope of operations, and the parsers for their custom arguments. -/
  | controller (tree : Controller) (parsers : TypeParsers)

namespace Command

/-- The answer to a path that leads to no operation. -/
def notFound : Text := "Command not found"

/-- Runs the command on the context of one call. -/
def invoke (command : Command) (c : Context) : Except CommandError Text :=
  match command with
  | .simple action _ => (action c).mapError .failed
  | .controller tree parsers =>
    match tree.resolve c.parameters with
    | .error _ => .ok notFound
    | .ok r =>
      (r.operation.invoke ⟨c.skip r.consumed, parsers⟩).mapError
        (·.rebase (c.parameters.take r.consumed))

/-- The last word of a text, if the text does not end behind it. -/
def lastWord (typed : Text) : Text :=
  if typed.closesWith ' ' then [] else (Tokens.plain typed).getLastD []

/-- The words of a text that are complete. -/
def completeWords (typed : Text) : List Text :=
  if typed.closesWith ' ' then Tokens.plain typed else (Tokens.plain typed).dropLast

/-- What the next word can be after the text typed so far. -/
def nextCompletion (command : Command) (typed : Text) : List Text :=
  match command with
  | .simple _ _ => []
  | .controller tree _ => tree.completions (completeWords typed) (lastWord typed)

/-- How the command is used. -/
def usage : Command → Text
  | .simple _ usage => usage
  | .controller tree _ => Text.joinWith ['\n'] tree.usageLines

end Command

end LineDispatch
