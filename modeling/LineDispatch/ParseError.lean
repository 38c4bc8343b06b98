import LineDispatch.Text

/-!
# Parse errors

A parse error says what is wrong with one token of a list of tokens and which
token that is.  The column it reports is the place of that token in the line
made of the tokens with single spaces between them, counted in characters
from one.  `rebase` puts tokens in front of that list and moves the index
along, so that an error raised against the arguments of a command can be told
against the whole line.
-/

namespace LineDispatch

/-- What can be wrong with a token. -/
inductive ParseFault
  /-- A quoted group is opened and not closed. -/
  | unclosedGroup (delimiter : Char)
  /-- A single-dash flag is the last token, so that it has no value. -/
  | missingFlagValue (flag : Text)
  /-- A numeric parameter got a token that is no number. -/
  | invalidNumber (token : Text) (expected : Text)
  /-- A character parameter got an empty token. -/
  | emptyCharacter
deriving DecidableEq, Repr

/-- A fault in one token of a list of tokens. -/
structure ParseError where
  fault : ParseFault
  /-- The tokens that were read. -/
  tokens : List Text
  /-- The index of the faulty token. -/
  index : Nat
deriving DecidableEq, Repr

namespace ParseError

/-- The column, counted from one, of the faulty token in the joined line: in front of it stand the
tokens before it, each with a space behind it. -/
def column (e : ParseError) : Nat := ((e.tokens.take e.index).flatMap (· ++ [' '])).length + 1

/-- The tokens in one line with single spaces between them. -/
def line (e : ParseError) : Text := Text.unwords e.tokens

/-- The same fault told against a list of tokens that has `front` before the old ones. -/
def rebase (front : List Text) (e : ParseError) : ParseError :=
  { e with tokens := front ++ e.tokens, index := front.length + e.index }

/-- One sentence on what is wrong and where. -/
def message (e : ParseError) : Text :=
  let place := Text.ofNat e.column
  match e.fault with
  | .unclosedGroup d =>
    "Failed to parse command parameters as the bracket [" ++ [d] ++ "] at index " ++ place
      ++ " is never closed!"
  | .missingFlagValue flag =>
    "Failed to parse command parameters as the optional parameter [" ++ flag ++ "] at index "
      ++ place ++ " has no value!"
  | .invalidNumber token expected =>
    "'" ++ token ++ "' at index " ++ place ++ " is not a valid " ++ expected ++ "!"
  | .emptyCharacter =>
    "Expected a character at index " ++ place ++ " but the parameter is empty!"

/-- The line, and below it a caret under the column of the faulty token. -/
def pointer (e : ParseError) : Text :=
  e.line ++ ['\n'] ++ List.replicate (e.column - 1) ' ' ++ ['^']

/-- The sentence and the pointer, three lines in all. -/
def display (e : ParseError) : Text := e.message ++ ['\n'] ++ e.pointer

@[simp] theorem rebase_fault (front : List Text) (e : ParseError) :
    (e.rebase front).fault = e.fault := rfl

@[simp] theorem rebase_nil (e : ParseError) : e.rebase [] = e := by simp [rebase]

theorem rebase_rebase (p q : List Text) (e : ParseError) :
    (e.rebase p).rebase q = e.rebase (q ++ p) := by
  simp [rebase, Nat.add_assoc]

/-- Columns are counted from one. -/
theorem column_pos (e : ParseError) : 0 < e.column := by
  unfold column
  omega

end ParseError

end LineDispatch
