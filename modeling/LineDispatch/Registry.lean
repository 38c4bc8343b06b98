import LineDispatch.Command
import LineDispatch.Suggestion

/-!
# Registries

A registry holds commands under their names.  The first token of a line names
the command, and the tokens behind it are its arguments.  A name that is taken
stays with its first command.
-/

namespace LineDispatch

/-- Commands under their names. -/
abbrev Registry := Table Command

namespace Registry

/-- The registered names, in order. -/
def commands (r : Registry) : List Text := r.keys

/-- Registers a command, unless the name is taken.  Gives whether it was free. -/
def register (r : Registry) (name : Text) (command : Command) : Bool × Registry :=
  r.insertNew name command

/-- The registered name closest to another, if one is close enough. -/
def suggest (r : Registry) (name : Text) : Option Text := suggestSimilar name r.commands

/-- The command of a name. -/
def command (r : Registry) (name : Text) : Except CommandError Command :=
  match r.get? name with
  | some c => .ok c
  | none => .error (.unknownCommand name (r.suggest name))

/-- Whether the first token of a line names a command here. -/
def canHandle (r : Registry) (line : Text) : Bool :=
  match Tokens.ofLine line with
  | .ok (name :: _) => r.contains name
  | _ => false

/-- Runs the command that a line names on the arguments behind the name. -/
def invoke (r : Registry) (line : Text) : Except CommandError Text :=
  match Tokens.ofLine line with
  | .error e => .error (.parse e)
  | .ok [] => .error .emptyCommand
  | .ok (name :: arguments) => do
    let command ← r.command name
    match Context.ofTokens arguments with
    | .error e => .error (.parse (e.rebase [name]))
    | .ok c => (command.invoke c).mapError (·.rebase [name])

end Registry

end LineDispatch
