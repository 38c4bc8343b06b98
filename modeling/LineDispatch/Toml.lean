import LineDispatch.Binary.Numeral

/-!
# TOML values

The values that a TOML document is made of.  A floating-point number is kept
as its numeral and a date or time as its text, since a configuration only
needs to know that they are there.
-/

namespace LineDispatch.Toml

/-- A TOML value. -/
inductive Value
  | string (text : Text)
  | integer (value : Int)
  | float (numeral : Numeral)
  | boolean (value : Bool)
  | moment (text : Text)
  | array (items : List Value)
  | table (entries : List (Text × Value))

end LineDispatch.Toml
