import LineDispatch.Reader

/-!
# Scripts of reads

The simplest reading plans are scripts: a list of steps, each of which reads
one thing and gives its text, or nothing.  A script is a type parser whose
parts are those texts, and it can also be run step by step, going on after a
step that fails.
-/

namespace LineDispatch

/-- One step of a script. -/
inductive ReadStep
  | read (type : ArgumentType)
  | flag (type : ArgumentType) (key : Text)
  | token
  | hasNext
  | position
  | remaining
  | parameters
  | fail (message : Text)
deriving DecidableEq

namespace ReadStep

/-- Whether, as a word. -/
def word (b : Bool) : Text := if b then "true" else "false"

/-- The plan of one step, which ends in the text of what it read. -/
def plan : ReadStep → ReadPlan (Option Text)
  | .read type => .read type (fun a => .done (a.map Argument.render)) .pass
  | .flag type key => .flag type key (fun a => .done (a.map Argument.render)) .pass
  | .token => .token .done
  | .hasNext => .position fun p => .parameters fun ps => .done (word (p < ps.length))
  | .position => .position fun p => .done (Text.ofNat p)
  | .remaining => .position fun p => .parameters fun ps => .done (Text.ofNat (ps.length - p))
  | .parameters => .parameters fun ps => .done (Text.joinWith ['+'] ps)
  | .fail m => .fail m

/-- The type parser of a script: its parts are the texts of the steps. -/
def parser : List ReadStep → TypeParser
  | [] => .done []
  | step :: rest => do
    let text ← step.plan
    let parts ← parser rest
    return .text (text.getD "none") :: parts

/-- Runs the steps of a script one by one, an error only ending its own step; gives each result
with the cursor after it. -/
def trace (r : Reader) : List ReadStep → Nat → List (Except CommandError (Option Text) × Nat)
  | [], _ => []
  | step :: rest, p =>
    let result := r.follow step.plan p
    result :: trace r rest result.2

end ReadStep

end LineDispatch
