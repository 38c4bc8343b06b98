import LineDispatch.Toml.Literal

/-!
# Dates and times of TOML

A moment is a date, a time, or a date and a time with a letter or a space
between them, to which the offset from universal time can be added.  Seconds
can be left out, and a day has to exist in its month.
-/

namespace LineDispatch.Toml.Moment

/-- A number of exactly `n` digits, and what follows it. -/
def digits? (n : Nat) (t : Text) : Option (Nat × Text) :=
  let digits := t.take n
  if digits.length = n ∧ digits.all Char.isDigit then some (Numeral.ofDigits digits, t.drop n)
  else none

/-- What follows a given character. -/
def after? (c : Char) (t : Text) : Option Text :=
  match t with
  | d :: rest => if d = c then some rest else none
  | [] => none

/-- Whether a year has a leap day. -/
def isLeap (year : Nat) : Bool := year % 4 == 0 && (year % 100 != 0 || year % 400 == 0)

/-- The number of days in a month. -/
def daysIn (year month : Nat) : Nat :=
  if month = 2 then if isLeap year then 29 else 28
  else if month = 4 ∨ month = 6 ∨ month = 9 ∨ month = 11 then 30
  else 31

/-- What follows a date. -/
def date? (t : Text) : Option Text := do
  let (year, t) ← digits? 4 t
  let (month, t) ← digits? 2 (← after? '-' t)
  let (day, t) ← digits? 2 (← after? '-' t)
  guard (1 ≤ month ∧ month ≤ 12 ∧ 1 ≤ day ∧ day ≤ daysIn year month)
  return t

/-- What follows hours and minutes. -/
def minutes? (t : Text) : Option Text := do
  let (hour, t) ← digits? 2 t
  let (minute, t) ← digits? 2 (← after? ':' t)
  guard (hour ≤ 23 ∧ minute ≤ 59)
  return t

/-- What follows a fraction of a second, if there is one. -/
def fraction? (t : Text) : Option Text :=
  match t with
  | '.' :: rest =>
    if (rest.head?.map Char.isDigit).getD false then some (rest.dropWhile Char.isDigit) else none
  | _ => some t

/-- What follows a time.  A second can be a leap second. -/
def time? (t : Text) : Option Text := do
  let t ← minutes? t
  match t with
  | ':' :: rest =>
    let (second, t) ← digits? 2 rest
    guard (second ≤ 60)
    fraction? t
  | _ => return t

/-- What follows an offset, if there is one. -/
def offset? (t : Text) : Option Text :=
  match t with
  | [] => some []
  | c :: rest =>
    if c = 'Z' ∨ c = 'z' then some rest
    else if c = '+' ∨ c = '-' then minutes? rest
    else none

/-- What follows a time that can have an offset, behind the sign that joins it to a date. -/
def dated? (t : Text) : Option Text :=
  match t with
  | [] => some []
  | c :: rest =>
    if c = 'T' ∨ c = 't' ∨ c = ' ' then do
      let t ← time? rest
      offset? t
    else none

/-- Whether a text is a moment. -/
def holds (t : Text) : Bool :=
  (date? t).bind dated? == some [] || time? t == some []

end LineDispatch.Toml.Moment
