import LineDispatch.ParseError
import LineDispatch.Text.Blank

/-!
# The tokens of a line

A line is cut at its spaces.  A piece that begins with a quote opens a group,
which runs to the next piece that ends in the same quote; the pieces of a
group are one token, spaces included, and the quotes around a token do not
belong to it.  Double quotes are grouped before single ones, so that a
double-quoted span may hold single quotes.  A group that is never closed is an
error at the piece that opens it.
-/

namespace LineDispatch.Tokens

/-- Whether a character is one of the two quotes. -/
def isQuote (c : Char) : Bool := c == '"' || c == '\''

/-- The pieces between single spaces, empty pieces included. -/
def pieces (line : Text) : List Text := line.splitOn ' '

/-- The words between runs of spaces. -/
def plain (line : Text) : List Text := (pieces line).filter (· ≠ [])

/-- Whether a piece opens a group: it begins with the delimiter and is not closed by it.
A delimiter that stands alone opens a group. -/
def opensGroup (d : Char) (piece : Text) : Bool :=
  piece.opensWith d && (piece == [d] || !piece.closesWith d)

/-- The pieces up to and including the first that ends in the delimiter, and those after it. -/
def closeGroup (d : Char) : List Text → Option (List Text × List Text)
  | [] => none
  | piece :: rest =>
    if piece.closesWith d then some ([piece], rest)
    else (closeGroup d rest).map fun (inside, after) => (piece :: inside, after)

theorem closeGroup_append {d : Char} {pieces inside after : List Text}
    (h : closeGroup d pieces = some (inside, after)) : inside ++ after = pieces := by
  induction pieces generalizing inside with
  | nil => simp [closeGroup] at h
  | cons piece rest ih =>
    simp only [closeGroup] at h
    split at h
    · cases h
      rfl
    · obtain ⟨⟨i, a⟩, hr, he⟩ := Option.map_eq_some_iff.1 h
      cases he
      simp [ih hr]

theorem length_after_closeGroup {d : Char} {pieces inside after : List Text}
    (h : closeGroup d pieces = some (inside, after)) : after.length ≤ pieces.length := by
  have := congrArg List.length (closeGroup_append h)
  simp only [List.length_append] at this
  omega

/-- Joins every group into one piece, delimiters kept.  The error is the index of the piece
that opens a group and is not closed. -/
def groupFrom (d : Char) : List Text → Except Nat (List Text)
  | [] => .ok []
  | piece :: rest =>
    if opensGroup d piece then
      match h : closeGroup d rest with
      | none => .error 0
      | some (inside, after) =>
        have : after.length < rest.length + 1 := Nat.lt_succ_of_le (length_after_closeGroup h)
        match groupFrom d after with
        | .ok grouped => .ok (Text.unwords (piece :: inside) :: grouped)
        | .error i => .error (i + inside.length + 1)
    else
      match groupFrom d rest with
      | .ok grouped => .ok (piece :: grouped)
      | .error i => .error (i + 1)
termination_by pieces => pieces.length

/-- One grouping pass over a list of pieces. -/
def group (d : Char) (pieces : List Text) : Except ParseError (List Text) :=
  (groupFrom d pieces).mapError fun i => ⟨.unclosedGroup d, pieces, i⟩

/-- A token without one delimiter at each of its ends, if it has both. -/
def stripDelimiters (d : Char) (token : Text) : Text :=
  match token with
  | c :: rest => if c = d ∧ Text.closesWith d rest then rest.dropLast else token
  | [] => []

/-- A grouping pass that also takes the delimiters off the grouped tokens. -/
def groupAndClean (d : Char) (pieces : List Text) : Except ParseError (List Text) :=
  (group d pieces).map (·.map (stripDelimiters d))

/-- A grouped token without the quotes around it. -/
def stripQuotes (token : Text) : Text :=
  match token with
  | c :: rest => if rest ≠ [] ∧ isQuote c then rest.dropLast else token
  | [] => []

/-- The tokens of a list of pieces: both grouping passes, then the quotes off. -/
def ofPieces (pieces : List Text) : Except ParseError (List Text) := do
  let doubled ← group '"' pieces
  let grouped ← group '\'' doubled
  return (grouped.filter (· ≠ [])).map stripQuotes

/-- The tokens of a line.  A blank line has none, and one without quotes is only cut. -/
def ofLine (line : Text) : Except ParseError (List Text) :=
  let line := line.trim
  if line = [] then .ok []
  else if !line.any isQuote then .ok (plain line)
  else ofPieces (pieces line)

end LineDispatch.Tokens
