import LineDispatch.Toml.Moment
import LineDispatch.Toml.Number
import LineDispatch.Toml.Tree

/-!
# TOML documents

A document is a list of statements, one on a line: the header of a table or of
an element of an array of tables, or an assignment to a key.  A statement has
to stay on its line, but for the inside of arrays and inline tables, where
lines may break and comments stand between any two parts; only a dotted key
stays in one piece.  The readers give what they read and what follows it; those
that go round in arrays and inline tables count down from the length of the
text, of which each round takes at least a character.
-/

namespace LineDispatch.Toml

/-- A key with the keys on the way to it. -/
abbrev KeyPath := List Text × Text

/-- One statement of a document. -/
inductive Statement
  | table (path : KeyPath)
  | element (path : KeyPath)
  | assignment (path : KeyPath) (value : Value)

/-- How deep arrays and inline tables can be in one another. -/
def depthLimit : Nat := 80

/-- How many keys a dotted key can have. -/
def keyLimit : Nat := 80

/-- The text without the blanks it begins with. -/
def skipSpace (t : Text) : Text := t.dropWhile isSpace

/-- The text without the comment it may begin with. -/
def skipComment (t : Text) : Text :=
  match t with
  | '#' :: rest => rest.dropWhile isPlain
  | t => t

/-- What follows the end of a line, a comment in front of it passed over.  The end of the text
ends its last line. -/
def lineEnd? (t : Text) : Option Text :=
  match skipComment (skipSpace t) with
  | [] => some []
  | t => newline? t

/-- The text without the blanks, comments and line breaks it begins with, so far as `rounds`
allow; nothing if a comment is not ended by a line break. -/
def skipFiller : Nat → Text → Option Text
  | 0, t => some t
  | rounds + 1, t =>
    match skipSpace t with
    | '#' :: rest => (newline? (rest.dropWhile isPlain)).bind (skipFiller rounds)
    | t =>
      match newline? t with
      | some rest => skipFiller rounds rest
      | none => some t

/-- Whether a character may stand in a key without quotes. -/
def isBare (c : Char) : Bool := c.isAlphanum || c == '_' || c == '-'

/-- A key on its own. -/
def simpleKey? (t : Text) : Option (Text × Text) :=
  match t with
  | '"' :: rest => basic? rest
  | '\'' :: rest => literal? rest
  | _ =>
    let key := t.takeWhile isBare
    if key = [] then none else some (key, t.dropWhile isBare)

/-- A key with the dotted keys in front of it, all in all no more than a limit, and what follows
the blanks behind it. -/
def keysUpTo? : Nat → Text → Option (KeyPath × Text)
  | 0, _ => none
  | limit + 1, t => do
    let (key, t) ← simpleKey? t
    let t := skipSpace t
    match t with
    | '.' :: rest =>
      let ((path, last), t) ← keysUpTo? limit (skipSpace rest)
      return ((key :: path, last), t)
    | _ => return (([], key), t)

/-- A key with the dotted keys in front of it, and what follows the blanks behind it. -/
def keyPath? (t : Text) : Option (KeyPath × Text) := keysUpTo? keyLimit t

/-- Whether a character may stand in a value without quotes or brackets. -/
def isScalarChar (c : Char) : Bool :=
  !([' ', '\t', '\r', '\n', ',', '[', ']', '\x7b', '\x7d', '#', '=', '"', '\''].contains c)

/-- The text of a value without quotes or brackets.  A space between a date and a time is part
of it. -/
def scalarText (t : Text) : Text × Text :=
  let run := t.takeWhile isScalarChar
  let rest := t.dropWhile isScalarChar
  match rest with
  | ' ' :: c :: _ =>
    if c.isDigit ∧ Moment.date? run = some [] then
      (run ++ ' ' :: rest.tail.takeWhile isScalarChar, rest.tail.dropWhile isScalarChar)
    else (run, rest)
  | _ => (run, rest)

/-- The value that a text without quotes or brackets stands for. -/
def scalar? (t : Text) : Option Value :=
  if t = "true".toList then some (.boolean true)
  else if t = "false".toList then some (.boolean false)
  else if Moment.holds t then some (.moment t)
  else number? t

mutual

/-- A value. -/
def value? : Nat → Nat → Text → Option (Value × Text)
  | 0, _, _ => none
  | rounds + 1, depth, t =>
    match t with
    | '[' :: rest =>
      match depth with
      | 0 => none
      | depth + 1 => (items? rounds depth rest).map fun (items, t) => (.array items, t)
    | '\x7b' :: rest =>
      match depth with
      | 0 => none
      | depth + 1 => do
        let (assignments, t) ← assignments? rounds depth rest
        let table ← Value.ofAssignments assignments
        return (table, t)
    | c :: _ =>
      if c = '"' ∨ c = '\'' then (string? t).map fun (s, t) => (.string s, t)
      else
        let (run, rest) := scalarText t
        (scalar? run).map (·, rest)
    | [] => none

/-- The items of an array, up to its closing bracket.  A comma may follow the last. -/
def items? : Nat → Nat → Text → Option (List Value × Text)
  | 0, _, _ => none
  | rounds + 1, depth, t => do
    match ← skipFiller (rounds + 1) t with
    | ']' :: rest => return ([], rest)
    | t =>
      let (item, t) ← value? rounds depth t
      match ← skipFiller (rounds + 1) t with
      | ']' :: rest => return ([item], rest)
      | ',' :: rest =>
        let (items, t) ← items? rounds depth rest
        return (item :: items, t)
      | _ => none

/-- The assignments of an inline table, up to its closing brace.  A comma may follow the last,
and lines may break on both sides of the equals sign. -/
def assignments? : Nat → Nat → Text → Option (List (KeyPath × Value) × Text)
  | 0, _, _ => none
  | rounds + 1, depth, t => do
    match ← skipFiller (rounds + 1) t with
    | '\x7d' :: rest => return ([], rest)
    | t =>
      let (path, t) ← keyPath? t
      match ← skipFiller (rounds + 1) t with
      | '=' :: rest =>
        let (value, t) ← value? rounds depth (← skipFiller (rounds + 1) rest)
        match ← skipFiller (rounds + 1) t with
        | '\x7d' :: rest => return ([(path, value)], rest)
        | ',' :: rest =>
          let (assignments, t) ← assignments? rounds depth rest
          return ((path, value) :: assignments, t)
        | _ => none
      | _ => none

end

/-- One statement. -/
def statement? (t : Text) : Option (Statement × Text) :=
  match t with
  | '[' :: '[' :: rest => do
    let (path, t) ← keyPath? (skipSpace rest)
    match t with
    | ']' :: ']' :: rest => return (.element path, rest)
    | _ => none
  | '[' :: rest => do
    let (path, t) ← keyPath? (skipSpace rest)
    match t with
    | ']' :: rest => return (.table path, rest)
    | _ => none
  | _ => do
    let (path, t) ← keyPath? t
    match t with
    | '=' :: rest =>
      let (value, t) ← value? (2 * t.length + 2) depthLimit (skipSpace rest)
      return (.assignment path value, t)
    | _ => none

/-- The statements of a document. -/
def statements? : Nat → Text → Option (List Statement)
  | 0, _ => none
  | rounds + 1, t =>
    match lineEnd? t with
    | some [] => some []
    | some t => statements? rounds t
    | none => do
      let (statement, t) ← statement? (skipSpace t)
      let t ← lineEnd? t
      if t = [] then return [statement]
      let statements ← statements? rounds t
      return statement :: statements

/-- A document that is read up to some statement: its tables, and the path of the last header. -/
structure Document where
  entries : Entries := []
  current : List Text := []

namespace Document

/-- The document with one more statement. -/
def add (d : Document) : Statement → Option Document
  | .table (path, key) =>
    (Entries.openTable path key d.entries).map fun entries => ⟨entries, path ++ [key]⟩
  | .element (path, key) =>
    (Entries.openElement path key d.entries).map fun entries => ⟨entries, path ++ [key]⟩
  | .assignment (path, key) value =>
    (Entries.changeAt (Entries.assign path key value) d.current d.entries).map fun entries =>
      { d with entries }

end Document

/-- Reads a document as a table.  A byte order mark in front of it does not count. -/
def parse (t : Text) : Option (List (Text × Value)) := do
  let t := if t.head? = some '\uFEFF' then t.tail else t
  let statements ← statements? (t.length + 1) t
  let d ← statements.foldlM Document.add {}
  return Node.values d.entries

end LineDispatch.Toml
