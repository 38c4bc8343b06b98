import LineDispatch.Text.Alphanumeric

/-!
# Names of types

A type is known by its full name, in which every name is preceded by the path
to it, with two colons after each step.  Shown to a user it goes without the
paths: `geometry::Point` is `Point`, also inside brackets and tuples.
-/

namespace LineDispatch.TypeName

/-- Whether a character belongs to a path. -/
def isPathChar (c : Char) : Bool := isAlphanumeric c || c == '_' || c == ':'

/-- What follows the last two colons in a row, if there are any. -/
def afterColons : Text → Option Text
  | [] => none
  | c :: rest =>
    (afterColons rest).or <|
      match c, rest with
      | ':', ':' :: tail => some tail
      | _, _ => none

/-- The last step of a path. -/
def lastStep (path : Text) : Text := (afterColons path).getD path

theorem length_dropWhile_le (p : Char → Bool) (t : Text) : (t.dropWhile p).length ≤ t.length := by
  have := congrArg List.length (List.takeWhile_append_dropWhile (p := p) (l := t))
  simp only [List.length_append] at this
  omega

/-- A name without the paths in it. -/
def short : Text → Text
  | [] => []
  | c :: rest =>
    have := length_dropWhile_le isPathChar rest
    if isPathChar c then
      lastStep (c :: rest.takeWhile isPathChar) ++ short (rest.dropWhile isPathChar)
    else c :: short rest
termination_by t => t.length

end LineDispatch.TypeName
