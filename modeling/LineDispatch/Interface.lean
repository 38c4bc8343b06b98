import LineDispatch.Detail
import LineDispatch.Painter
import LineDispatch.Registry

/-!
# Interfaces

An interface routes a line to the registries attached to it: to the first that
knows the line's command, or to every one that does.  Failures become messages
and never keep another registry from answering.  A line that begins with the
word for help is answered with a listing of all commands, unless a registry
has a command of its own for it.
-/

namespace LineDispatch

/-- How lines are routed and failures told. -/
structure Settings where
  /-- Every registry that knows a command runs it, not only the first. -/
  everyHandler : Bool := false
  /-- A failure is told with its detail. -/
  withDetail : Bool := false
deriving DecidableEq, Repr

/-- Registries that lines are routed to, in order. -/
structure Interface where
  handlers : List Registry := []
  settings : Settings := {}
  /-- Whether the word for help is answered. -/
  help : Bool := false

/-- What a line comes to: the results of the commands that ran, and a message for each that
failed. -/
structure Answer where
  results : List Text := []
  messages : List Text := []
deriving DecidableEq, Repr

namespace Interface

/-- The word that is answered with the listing. -/
def helpWord : Text := "help"

/-- What a message begins with when no registry knows the command of a line. -/
def unknownCommand : Text := "Unknown command."

/-- The names of all commands, in the order of the registries. -/
def commands (i : Interface) : List Text := i.handlers.flatMap Registry.commands

/-- Whether some registry knows the command of a line. -/
def accepts (i : Interface) (line : Text) : Bool := i.handlers.any (·.canHandle line)

/-- Whether a line is answered with the listing. -/
def isHelp (i : Interface) (line : Text) : Bool :=
  i.help && (Tokens.plain line).head? == some helpWord && !i.accepts line

/-- Whether a line is answered at all. -/
def canHandle (i : Interface) (line : Text) : Bool := i.isHelp line || i.accepts line

/-- The entry of one command in the listing: its name, and its usage indented below. -/
def listingEntry (p : Painter) (name : Text) (command : Command) : Text :=
  "\n- " ++ name ++ command.usage.lines.flatMap fun line => "\n    ".toList ++ p.dim line

/-- The listing of all commands. -/
def helpListing (i : Interface) (p : Painter) : Text :=
  p.header "All available commands:" ++ i.handlers.flatMap fun r =>
    r.entries.flatMap fun (name, command) => listingEntry p name command

/-- The names to suggest for an unknown one: all commands, and the word for help. -/
def knownNames (i : Interface) : List Text :=
  if i.help && !i.commands.contains helpWord then i.commands ++ [helpWord] else i.commands

/-- The message for a line that no registry accepts. -/
def unhandled (i : Interface) (line : Text) : Text :=
  match Tokens.ofLine line with
  | .error e => e.display
  | .ok [] => CommandError.emptyCommand.message
  | .ok (name :: _) =>
    unknownCommand ++ ' ' ::
      (CommandError.unknownCommand name (suggestSimilar name i.knownNames)).message

/-- The message for a failure. -/
def describe (i : Interface) (e : CommandError) : Text :=
  if i.settings.withDetail then e.message ++ '\n' :: Detail.ofCommandError e else e.message

/-- Adds to an answer what one registry makes of a line. -/
def contribute (i : Interface) (line : Text) (handler : Registry) (rest : Answer) : Answer :=
  match handler.invoke line with
  | .ok result => { rest with results := result :: rest.results }
  | .error e => { rest with messages := i.describe e :: rest.messages }

/-- The registries that a line is run by. -/
def chosen (i : Interface) (line : Text) : List Registry :=
  let capable := i.handlers.filter (·.canHandle line)
  if i.settings.everyHandler then capable else capable.take 1

/-- Routes a line. -/
def handle (i : Interface) (line : Text) : Answer :=
  if i.isHelp line then { results := [i.helpListing .plain] }
  else if !i.canHandle line then { messages := [i.unhandled line] }
  else (i.chosen line).foldr (i.contribute line) {}

end Interface

end LineDispatch
