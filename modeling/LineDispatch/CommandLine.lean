import LineDispatch.Config

/-!
# The command line

The options of the program.  An option with a value has it behind an equals
sign, as the next argument, or, for the short one, right behind its letter.
Every option but that for a line can be given once.  Arguments are read in
order, so that asking for the version stops what would be wrong behind it.
-/

namespace LineDispatch

/-- What the arguments of the program ask for. -/
structure Options where
  /-- The configuration file, if it is not the one of the working directory. -/
  config : Option Text := none
  logLevel : Option Text := none
  /-- Every registry that knows a command runs it, whatever is configured. -/
  everyHandler : Bool := false
  color : Option ColorMode := none
  /-- The lines to run in place of those on the input, in order. -/
  lines : List Text := []
deriving DecidableEq, Repr

namespace Options

/-- Why the arguments are not followed. -/
inductive Stop
  /-- They make no sense. -/
  | usage
  /-- They ask for the version. -/
  | version
deriving DecidableEq, Repr

/-- The options that take a value. -/
inductive Name
  | config
  | logLevel
  | color
  | line
deriving DecidableEq, Repr

/-- The option with a value of a long name. -/
def Name.ofText? (t : Text) : Option Name :=
  if t = "config".toList then some .config
  else if t = "log-level".toList then some .logLevel
  else if t = "color".toList then some .color
  else if t = "command".toList then some .line
  else none

/-- Gives an option a value. -/
def set (o : Options) (name : Name) (value : Text) : Except Stop Options :=
  match name with
  | .config =>
    if o.config.isSome ∨ value = [] then .error .usage else .ok { o with config := some value }
  | .logLevel =>
    if o.logLevel.isSome then .error .usage else .ok { o with logLevel := some value }
  | .color =>
    match o.color, ColorMode.ofName? value with
    | none, some mode => .ok { o with color := some mode }
    | _, _ => .error .usage
  | .line => .ok { o with lines := o.lines ++ [value] }

/-- An argument as it looks by itself. -/
inductive Form
  /-- A long name, with a value if there is an equals sign. -/
  | long (name : Text) (value : Option Text)
  /-- A letter behind one dash, with what follows it. -/
  | short (letter : Char) (rest : Text)
  /-- Two dashes and no more. -/
  | separator
  /-- Anything else; a dash alone is a word too. -/
  | word
deriving DecidableEq, Repr

/-- How an argument looks. -/
def Form.of : Text → Form
  | ['-', '-'] => .separator
  | '-' :: '-' :: rest =>
    match rest.dropWhile (· != '=') with
    | _ :: value => .long (rest.takeWhile (· != '=')) (some value)
    | [] => .long rest none
  | '-' :: letter :: rest => .short letter rest
  | _ => .word

/-- Reads arguments on top of what is read already. -/
def parseFrom (o : Options) : List Text → Except Stop Options
  | [] => .ok o
  | argument :: rest =>
    match Form.of argument with
    | .word => .error .usage
    | .separator => if rest = [] then .ok o else .error .usage
    | .short letter attached =>
      if letter = 'V' then .error .version
      else if letter ≠ 'c' then .error .usage
      else
        match attached with
        | '=' :: value => next o .line value rest
        | [] => pending o .line rest
        | value => next o .line value rest
    | .long name value =>
      match Name.ofText? name, value with
      | some option, some value => next o option value rest
      | some option, none => pending o option rest
      | none, some _ => .error .usage
      | none, none =>
        if name = "version".toList then .error .version
        else if name = "multi".toList ∧ !o.everyHandler then
          parseFrom { o with everyHandler := true } rest
        else .error .usage
where
  /-- Gives an option its value and reads on. -/
  next (o : Options) (name : Name) (value : Text) (rest : List Text) : Except Stop Options :=
    match o.set name value with
    | .ok o => parseFrom o rest
    | .error e => .error e
  /-- Gives an option the next argument as its value, if that is a word, and reads on. -/
  pending (o : Options) (name : Name) : List Text → Except Stop Options
    | value :: rest => if Form.of value = .word then next o name value rest else .error .usage
    | [] => .error .usage

/-- Reads the arguments of the program. -/
def parse (arguments : List Text) : Except Stop Options := parseFrom {} arguments

end Options

end LineDispatch
