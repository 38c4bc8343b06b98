import LineDispatch.Text.Printable

/-!
# Quoted text

A text in quotes is written so that each character can be told: a quote and a
backslash behind a backslash, the common control characters by a letter, and
all else that does not show by its code point in hexadecimal.
-/

namespace LineDispatch.Text

/-- A character as it is written between two of the given quotes. -/
def escape (quote : Char) (c : Char) : Text :=
  if c = '\x00' then ['\\', '0']
  else if c = '\t' then ['\\', 't']
  else if c = '\r' then ['\\', 'r']
  else if c = '\n' then ['\\', 'n']
  else if c = '\\' ∨ c = quote then ['\\', c]
  else if isExtending c || !isPrintable c then
    ['\\', 'u', '\x7b'] ++ Nat.toDigits 16 c.toNat ++ ['\x7d']
  else [c]

/-- A text in double quotes. -/
def quoted (t : Text) : Text := '"' :: t.flatMap (escape '"') ++ ['"']

/-- A character in single quotes. -/
def quotedChar (c : Char) : Text := '\'' :: escape '\'' c ++ ['\'']

end LineDispatch.Text
