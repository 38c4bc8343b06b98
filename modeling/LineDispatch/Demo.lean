import LineDispatch.Binary.Hypotenuse
import LineDispatch.CommandLine
import LineDispatch.Handler
import LineDispatch.Loop

/-!
# The demonstration

A small line interface to try the library with: a greeting, and a controller
that echoes or repeats a text and computes.  The program runs the lines of its
arguments, or else those on its input until that ends.
-/

namespace LineDispatch.Demo

/-- The name of the program. -/
def name : Text := "linecmd"

/-- The version of the program. -/
def version : Text := "0.3.2"

/-! ## Commands -/

/-- The floating-point numbers among the parts of the arguments. -/
def numbers (arguments : List Argument) : List Binary :=
  arguments.flatMap fun
    | .value (.scalar (.float _ x)) => [x]
    | .value (.custom _ parts) => parts.filterMap fun
      | .float _ x => some x
      | _ => none
    | _ => []

/-- A handler that computes one double from two. -/
def computing (f : Binary → Binary → Except Text Binary) (arguments : List Argument) :
    Except Text Text :=
  match numbers arguments with
  | [a, b] => (f a b).map (Binary.text .double)
  | _ => .error "two numbers expected"

/-- The type of an argument that is a double. -/
def double : ArgumentType := .scalar (.float .f64)

/-- The type of an argument that is a text. -/
def string : ArgumentType := .scalar .string

/-- The name of the type of points. -/
def point : Text := "Point"

/-- An operation on two doubles. -/
def binary (declared : Text) (f : Binary → Binary → Except Text Binary) : Operation :=
  .declare {} declared [double, double] (computing f)

/-- The quotient of two doubles, unless the divisor is zero. -/
def quotient (a b : Binary) : Except Text Binary :=
  if b.isZero then .error "division by zero" else .ok (Binary.div .double a b)

/-- The operations that compute. -/
def mathOperations : List Operation := [
  binary "add" fun a b => .ok (Binary.add .double a b),
  binary "sub" fun a b => .ok (Binary.sub .double a b),
  binary "mul" fun a b => .ok (Binary.mul .double a b),
  binary "div" quotient,
  .declare { name := "len" } "length" [.custom point]
    (computing fun a b => .ok (Binary.hypotenuse a b))]

/-- The operations on texts. -/
def textOperations : List Operation := [
  .declare { isDefault := true } "run" [string] fun
    | [.value b] => .ok b.render
    | _ => .error "a text expected",
  .declare { name := "Something" } "run" [string, .scalar (.integer .i32)] Handler.repeatText.run]

/-- The scope that computes. -/
def math : Except DefinitionError Controller :=
  Controller.build "Math" mathOperations []

/-- The scope of the command for texts and numbers. -/
def test : Except DefinitionError Controller := do
  Controller.build "TestCommand" textOperations [.declare {} "math" (← math)]

/-- Reads the number of a point, zero if there is none. -/
def coordinate : ReadPlan Scalar :=
  let number : Option Argument → Scalar
    | some (.value (.scalar v)) => v
    | _ => .float .f64 (.zero .double false)
  .read double (fun a => .done (number a)) .pass

/-- Reads a point: two numbers, of which either can be left out at the end. -/
def pointParser : TypeParser := do
  let x ← coordinate
  let y ← coordinate
  return [x, y]

/-- The commands of the demonstration. -/
def registry : Registry :=
  let greeting := Command.simple (fun _ => .ok "say hi") []
  let registry := (Registry.register {} "hello" greeting).2
  match test with
  | .ok tree =>
    (registry.register "test" (.controller tree (Table.insert {} point pointParser))).2
  | .error _ => registry

/-! ## Running -/

/-- The interface that a configuration asks for. -/
def interface (config : Config) (everyHandler : Bool) : Interface :=
  let settings := config.settings
  { handlers := [registry]
    settings := { settings with everyHandler := settings.everyHandler || everyHandler }
    help := config.help }

/-- What a run leaves: its exit code, and what was written to each channel. -/
structure Report where
  code : Nat := 0
  out : Text := []
  err : Text := []
deriving DecidableEq, Repr

/-- The path of the configuration file below the working directory. -/
def defaultPath : Text := ".linecmd/config.toml"

/-- A note about a configuration that cannot be used. -/
def note (path : Text) (e : ConfigError) : Text :=
  "[" ++ name ++ "][warn] " ++ e.message path ++ "\n"

/-- The last words of a run whose configuration was asked for and cannot be used. -/
def refusal (path : Text) (e : ConfigError) : Text :=
  "[" ++ name ++ "] Error: failed to load config " ++ path ++ ": " ++ e.message path ++ ": "
    ++ e.reason ++ "\n"

/-- The configuration, with a note if the default takes the place of a file that cannot be used.
A file that was asked for has to be usable. -/
def configure (o : Options) (directory : Text) (file : FileContent) :
    Except Report (Config × Text) :=
  match Config.ofFile file, o.config with
  | .ok config, _ => .ok (config, [])
  | .error e, some path => .error { code := 1, err := refusal path e }
  | .error e, none => .ok ({}, note (directory ++ '/' :: defaultPath) e)

/-- The painter for a run. -/
def painter (o : Options) (config : Config) : Painter := .ofMode (o.color.getD config.color)

/-- The loop of a run. -/
def loop (o : Options) (config : Config) : Loop :=
  let l : Loop := { interface := interface config o.everyHandler, painter := painter o config }
  match config.prompt with
  | some prompt => l.withPrompt prompt
  | none => l

/-- Text in lines of its own. -/
def inLines (texts : List Text) : Text := texts.flatMap (· ++ ['\n'])

/-- Runs lines one after the other.  The code tells whether any has failed. -/
def runLines (i : Interface) (p : Painter) (lines : List Text) : Report :=
  let answers := lines.map i.handle
  let messages := answers.flatMap (·.messages)
  { code := if messages = [] then 0 else 1
    out := inLines ((answers.flatMap (·.results)).filter (· ≠ []))
    err := inLines (messages.map p.error) }

/-- What was written to a channel, in one text. -/
def writtenTo (channel : Channel) (written : List Write) : Text :=
  (written.filter (·.channel = channel)).flatMap (·.text)

/-- Runs the loop over an input that does not fail. -/
def runLoop (l : Loop) (input : List UInt8) : Report :=
  let written := (l.run { input } none).written
  { out := writtenTo .out written, err := writtenTo .err written }

/-- Runs the program with its options. -/
def runOptions (o : Options) (directory : Text) (file : FileContent) (input : List UInt8) :
    Report :=
  match configure o directory file with
  | .error report => report
  | .ok (config, notes) =>
    let report :=
      if o.lines = [] then runLoop (loop o config) input
      else runLines (interface config o.everyHandler) (painter o config) o.lines
    { report with err := notes ++ report.err }

/-- The path of the configuration file. -/
def configPath (o : Options) : Text := o.config.getD defaultPath

/-- The report of a run that does not come to its options. -/
def stopped : Options.Stop → Report
  | .usage => { code := 2, err := "Usage: " ++ name ++ " [OPTIONS]\n" }
  | .version => { out := name ++ " " ++ version ++ "\n" }

end LineDispatch.Demo
