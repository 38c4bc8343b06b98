import LineDispatch.Text.Lowercase

/-!
# Suggestions

For a name that is not known, the known name that is closest to it, if one is
close enough.  Names are compared in lower case by their edit distance: the
least number of characters to put in, take out or replace.
-/

namespace LineDispatch

namespace EditDistance

/-- The rest of the row of distances below `row`: those of one more character `c`, with the
distance to the left in hand. -/
def rowFrom (c : Char) : Nat → List Nat → Text → List Nat
  | left, corner :: above :: rest, d :: ds =>
    let here := min (min (left + 1) (above + 1)) (if c = d then corner else corner + 1)
    here :: rowFrom c here (above :: rest) ds
  | _, _, _ => []

/-- The row of distances from one more character to all beginnings of `target`. -/
def nextRow (target : Text) (row : List Nat) (c : Char) : List Nat :=
  let left := row.headD 0 + 1
  left :: rowFrom c left row target

/-- The distances from a text to all beginnings of `target`. -/
def lastRow (source target : Text) : List Nat :=
  source.foldl (nextRow target) (List.range (target.length + 1))

end EditDistance

/-- The least number of edits that turn one text into the other. -/
def editDistance (source target : Text) : Nat := (EditDistance.lastRow source target).getLastD 0

/-- The greatest distance at which a name is still suggested. -/
def suggestionDistance : Nat := 2

/-- The distance of two names in lower case. -/
def nameDistance (a b : Text) : Nat := editDistance a.lowercase b.lowercase

/-- The better of two candidates: the new one only if it is strictly closer. -/
def closer (best : Option (Text × Nat)) (candidate : Text × Nat) : Option (Text × Nat) :=
  match best with
  | none => some candidate
  | some (_, least) => if candidate.2 < least then some candidate else best

/-- The first of the closest candidates, if it is close enough. -/
def suggestSimilar (name : Text) (candidates : List Text) : Option Text :=
  let close := (candidates.map fun c => (c, nameDistance name c)).filter
    (·.2 ≤ suggestionDistance)
  (close.foldl closer none).map Prod.fst

end LineDispatch
