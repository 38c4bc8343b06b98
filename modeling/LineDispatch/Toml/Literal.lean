import LineDispatch.Toml

/-!
# String literals of TOML

A basic string stands in double quotes and has escapes, a literal string
stands in single quotes and has none.  With three quotes on each side either
can go over several lines; a line break just behind the opening quotes does
not count, and up to two quotes can stand before the closing ones.  Every
reader gets the text behind the opening quotes and gives the string and what
follows the closing ones.
-/

namespace LineDispatch.Toml

/-- Whether a character may stand for itself: any but a control character, or a tab. -/
def isPlain (c : Char) : Bool := c == '\t' || (0x20 ≤ c.toNat && c.toNat != 0x7F)

/-- Whether a character is a blank within a line. -/
def isSpace (c : Char) : Bool := c == ' ' || c == '\t'

/-- What follows a line break. -/
def newline? : Text → Option Text
  | '\n' :: rest => some rest
  | '\r' :: '\n' :: rest => some rest
  | _ => none

/-- The value of a hexadecimal digit. -/
def hexDigit? (c : Char) : Option Nat :=
  if c.isDigit then some (c.toNat - '0'.toNat)
  else if 'a' ≤ c ∧ c ≤ 'f' then some (c.toNat - 'a'.toNat + 10)
  else if 'A' ≤ c ∧ c ≤ 'F' then some (c.toNat - 'A'.toNat + 10)
  else none

/-- The character of a code point in hexadecimal digits. -/
def charOfHex (digits : Text) : Option Char := do
  let values ← digits.mapM hexDigit?
  let code := values.foldl (fun n d => 16 * n + d) 0
  if code.isValidChar then some (Char.ofNat code) else none

/-- What an escape stands for, the backslash left out, and what follows it. -/
def escape? : Text → Option (Char × Text)
  | 'x' :: a :: b :: rest => (charOfHex [a, b]).map (·, rest)
  | 'u' :: a :: b :: c :: d :: rest => (charOfHex [a, b, c, d]).map (·, rest)
  | 'U' :: a :: b :: c :: d :: e :: f :: g :: h :: rest =>
    (charOfHex [a, b, c, d, e, f, g, h]).map (·, rest)
  | c :: rest =>
    let letters : List (Char × Char) :=
      [('b', '\x08'), ('t', '\t'), ('n', '\n'), ('f', '\x0c'), ('r', '\r'), ('e', '\x1b'),
        ('"', '"'), ('\\', '\\')]
    (letters.lookup c).map (·, rest)
  | [] => none

theorem length_of_escape? {t rest : Text} {c : Char} (h : escape? t = some (c, rest)) :
    rest.length < t.length := by
  unfold escape? at h
  split at h
  all_goals
    first
    | cases h
    | obtain ⟨d, _, he⟩ := Option.map_eq_some_iff.1 h
      cases he
      simp only [List.length_cons]
      omega

/-- The closing quotes of a string over several lines: the quotes before them that belong to it,
and what follows. -/
def closing? (quote : Char) (t : Text) : Option (Text × Text) :=
  let run := (t.takeWhile (· == quote)).length
  if run < 3 then none
  else
    let inside := min (run - 3) 2
    some (List.replicate inside quote, t.drop (inside + 3))

/-- The text without the blanks and line breaks it begins with. -/
def skipGap : Text → Text
  | ' ' :: rest => skipGap rest
  | '\t' :: rest => skipGap rest
  | '\n' :: rest => skipGap rest
  | '\r' :: '\n' :: rest => skipGap rest
  | t => t

theorem length_skipGap (t : Text) : (skipGap t).length ≤ t.length := by
  fun_induction skipGap t <;> grind

/-- What follows a line break that a backslash joins two lines over, with the blanks before and
behind it. -/
def continuation? (t : Text) : Option Text := (newline? (t.dropWhile isSpace)).map skipGap

theorem length_of_newline? {t rest : Text} (h : newline? t = some rest) :
    rest.length < t.length := by
  unfold newline? at h
  split at h
  all_goals
    cases h
  all_goals
    simp only [List.length_cons]
    omega

theorem length_of_continuation? {t rest : Text} (h : continuation? t = some rest) :
    rest.length < t.length := by
  obtain ⟨r, hr, he⟩ := Option.map_eq_some_iff.1 h
  have hline := length_of_newline? hr
  have hgap := length_skipGap r
  have hspace := congrArg List.length (List.takeWhile_append_dropWhile (p := isSpace) (l := t))
  simp only [List.length_append] at hspace
  subst he
  omega

/-- A basic string on one line. -/
def basic? : Text → Option (Text × Text)
  | [] => none
  | c :: rest =>
    if c = '"' then some ([], rest)
    else if c = '\\' then
      match h : escape? rest with
      | none => none
      | some (d, rest') =>
        have := length_of_escape? h
        (basic? rest').map fun (t, after) => (d :: t, after)
    else if isPlain c then (basic? rest).map fun (t, after) => (c :: t, after)
    else none
termination_by t => t.length
decreasing_by all_goals simp only [List.length_cons]; omega

/-- A literal string on one line. -/
def literal? : Text → Option (Text × Text)
  | [] => none
  | c :: rest =>
    if c = '\'' then some ([], rest)
    else if isPlain c then (literal? rest).map fun (t, after) => (c :: t, after)
    else none

/-- Whether a character may stand for itself where lines may break. -/
def isPlainOrBreak (c : Char) (rest : Text) : Bool :=
  isPlain c || c == '\n' || (c == '\r' && rest.head? == some '\n')

/-- A basic string over several lines. -/
def basicLines? (t : Text) : Option (Text × Text) :=
  match closing? '"' t with
  | some done => some done
  | none =>
    match t with
    | [] => none
    | c :: rest =>
      if c = '\\' then
        match h : continuation? rest, h' : escape? rest with
        | some rest', _ =>
          have := length_of_continuation? h
          basicLines? rest'
        | none, some (d, rest') =>
          have := length_of_escape? h'
          (basicLines? rest').map fun (t, after) => (d :: t, after)
        | none, none => none
      else if isPlainOrBreak c rest then
        (basicLines? rest).map fun (t, after) => (c :: t, after)
      else none
termination_by t.length
decreasing_by all_goals simp only [List.length_cons]; omega

/-- A literal string over several lines. -/
def literalLines? (t : Text) : Option (Text × Text) :=
  match closing? '\'' t with
  | some done => some done
  | none =>
    match t with
    | [] => none
    | c :: rest =>
      if isPlainOrBreak c rest then (literalLines? rest).map fun (t, after) => (c :: t, after)
      else none

/-- The text without a line break at its very beginning. -/
def skipNewline (t : Text) : Text := (newline? t).getD t

/-- A string of any form, with its opening quotes, and what follows it. -/
def string? : Text → Option (Text × Text)
  | '"' :: '"' :: '"' :: rest => basicLines? (skipNewline rest)
  | '"' :: rest => basic? rest
  | '\'' :: '\'' :: '\'' :: rest => literalLines? (skipNewline rest)
  | '\'' :: rest => literal? rest
  | _ => none

end LineDispatch.Toml
