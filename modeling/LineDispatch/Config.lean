import LineDispatch.Interface
import LineDispatch.Text.Utf8
import LineDispatch.Toml.Document

/-!
# Configuration

A configuration file sets how lines are routed, the prompt of the loop and
when to paint.  It is a TOML document of three sections.  A section is a table
or an array of its values in order, and what a file does not set keeps its
default; keys that are not known are passed over.
-/

namespace LineDispatch

/-- What a configuration file sets. -/
structure Config where
  settings : Settings := {}
  /-- Whether the word for help is answered. -/
  help : Bool := true
  prompt : Option Text := none
  color : ColorMode := .auto
deriving DecidableEq, Repr

namespace Toml.Value

mutual

/-- Whether all numbers in a value are within bounds: 128 bits for integers, and the range of
doubles for floats that are not spelled infinite. -/
def isReadable : Value → Bool
  | .integer n => decide (-2 ^ 127 ≤ n ∧ n < 2 ^ 128)
  | .float (.decimal negative m x) =>
    match Numeral.toBinary .double (.decimal negative m x) with
    | .infinite _ => false
    | _ => true
  | .array items => areReadable items
  | .table entries => entriesReadable entries
  | _ => true

/-- Whether all numbers in a list of values are within bounds. -/
def areReadable : List Value → Bool
  | [] => true
  | v :: rest => v.isReadable && areReadable rest

/-- Whether all numbers in the entries of a table are within bounds. -/
def entriesReadable : List (Text × Value) → Bool
  | [] => true
  | (_, v) :: rest => v.isReadable && entriesReadable rest

end

/-- A truth value. -/
def bool? : Value → Option Bool
  | .boolean b => some b
  | _ => none

/-- A text. -/
def text? : Value → Option Text
  | .string t => some t
  | _ => none

/-- Whether a value is an empty table or an empty array. -/
def isEmpty : Value → Bool
  | .table [] | .array [] => true
  | _ => false

end Toml.Value

namespace ColorMode

/-- The mode of a name. -/
def ofName? (name : Text) : Option ColorMode :=
  if name = "auto".toList then some .auto
  else if name = "always".toList then some .always
  else if name = "never".toList then some .never
  else none

/-- The mode that a value gives: by its name, or as the only key of a table, with nothing in it. -/
def ofValue? : Toml.Value → Option ColorMode
  | .string name => ofName? name
  | .table [(name, v)] => if v.isEmpty then ofName? name else none
  | _ => none

end ColorMode

namespace Config

/-- The keys of a section in order, each with what its value changes. -/
abbrev Section := List (Text × (Toml.Value → Config → Option Config))

/-- Reads a section.  A date or time in its place sets nothing. -/
def readSection (keys : Section) (value : Toml.Value) (config : Config) : Option Config :=
  match value with
  | .table entries =>
    entries.foldlM (fun config (key, value) =>
      match keys.lookup key with
      | some read => read value config
      | none => if value.isReadable then some config else none) config
  | .array items =>
    (keys.zip items).foldlM (fun config ((_, read), value) => read value config) config
  | .moment _ => some config
  | _ => none

/-- How lines are routed. -/
def interfaceSection : Section := [
  ("multi_handle_commands", fun v c => do
    return { c with settings := { c.settings with everyHandler := ← v.bool? } }),
  ("print_error_chain", fun v c => do
    return { c with settings := { c.settings with withDetail := ← v.bool? } }),
  ("help", fun v c => do return { c with help := ← v.bool? })]

/-- What the loop writes before each read. -/
def loopSection : Section := [
  ("prompt", fun v c => do return { c with prompt := some (← v.text?) })]

/-- When to paint. -/
def outputSection : Section := [
  ("color", fun v c => do return { c with color := ← ColorMode.ofValue? v })]

/-- The sections of a file. -/
def sections : Section := [
  ("interface", readSection interfaceSection),
  ("loop", readSection loopSection),
  ("output", readSection outputSection)]

/-- Reads the text of a configuration file. -/
def ofText? (t : Text) : Option Config := do
  let entries ← Toml.parse t
  readSection sections (.table entries) {}

end Config

/-- What is found at the path of a file. -/
inductive FileContent
  | missing
  | directory
  | bytes (content : List UInt8)
deriving DecidableEq, Repr

/-- Why there is no configuration. -/
inductive ConfigError
  /-- The file cannot be read, for a reason. -/
  | read (reason : Text)
  /-- The file is no configuration. -/
  | parse
deriving DecidableEq, Repr

namespace ConfigError

/-- The reason by itself. -/
def reason : ConfigError → Text
  | .read r => r
  | .parse => "TOML parse error"

/-- The sentence that tells the error of the file at a path. -/
def message (path : Text) (e : ConfigError) : Text :=
  let verb : Text := match e with
    | .read _ => "read"
    | .parse => "parse"
  "failed to " ++ verb ++ " " ++ path ++ ": " ++ e.reason

end ConfigError

namespace Config

/-- The configuration of a file; without a file it is the default. -/
def ofFile : FileContent → Except ConfigError Config
  | .missing => .ok {}
  | .directory => .error (.read "Is a directory (os error 21)")
  | .bytes content =>
    match Utf8.strict content with
    | none => .error (.read "stream did not contain valid UTF-8")
    | some t =>
      match ofText? t with
      | some config => .ok config
      | none => .error .parse

/-- The configuration of a file, or the default if there is none to be had. -/
def ofFileOrDefault (file : FileContent) : Config :=
  match ofFile file with
  | .ok config => config
  | .error _ => {}

end Config

end LineDispatch
