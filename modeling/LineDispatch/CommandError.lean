import LineDispatch.ParseError

/-!
# Command errors

All that can go wrong between a line and the result of its command.  Each
cause has one sentence, and only a parse error carries a position.
-/

namespace LineDispatch

/-- Why a line has no result. -/
inductive CommandError
  /-- The line is blank. -/
  | emptyCommand
  /-- No command has the name; a known name close to it may be suggested. -/
  | unknownCommand (name : Text) (suggestion : Option Text)
  /-- A token does not fit. -/
  | parse (error : ParseError)
  /-- A required parameter got nothing. -/
  | missingArgument (index : Nat) (expected : Text)
  /-- The command itself failed. -/
  | failed (message : Text)
deriving DecidableEq, Repr

/-- What lines give can be compared. -/
instance decidableEqExcept {ε α : Type} [DecidableEq ε] [DecidableEq α] :
    DecidableEq (Except ε α)
  | .ok a, .ok b => decidable_of_decidable_of_iff (p := a = b) (by rw [Except.ok.injEq])
  | .error e, .error f => decidable_of_decidable_of_iff (p := e = f) (by rw [Except.error.injEq])
  | .ok _, .error _ | .error _, .ok _ => isFalse nofun

namespace CommandError

/-- The sentence that tells the error. -/
def message : CommandError → Text
  | .emptyCommand => "Can't parse an empty command!"
  | .unknownCommand name suggestion =>
    let hint : Text := match suggestion with
      | some s => " Did you mean '" ++ s ++ "'?"
      | none => ""
    "No command with the name '" ++ name ++ "' exists!" ++ hint
  | .parse e => e.display
  | .missingArgument index expected =>
    "Missing argument " ++ Text.ofNat index ++ " of type " ++ expected
  | .failed m => m

/-- The error told against tokens that have `front` before the old ones. -/
def rebase (front : List Text) : CommandError → CommandError
  | .parse e => .parse (e.rebase front)
  | e => e

end CommandError

end LineDispatch
