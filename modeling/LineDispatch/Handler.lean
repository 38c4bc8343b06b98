import LineDispatch.Context
import LineDispatch.Argument

/-!
# Stock handlers

Handlers to build tables from that need no code of their own: those of
operations, which get typed arguments, and those of simple commands, which get
the context of the call.
-/

namespace LineDispatch

/-- Stock handlers of operations. -/
inductive Handler
  /-- Answers with all arguments. -/
  | show
  /-- Fails with all arguments. -/
  | fail
  /-- Answers with nothing. -/
  | unit
  /-- Answers with its one argument. -/
  | same
  /-- Answers with a fixed word. -/
  | pong
  /-- The sum of two floating-point numbers. -/
  | add
  /-- The quotient of two integers, cut to its integer part. -/
  | div
  /-- A text as often as an integer says. -/
  | repeatText
deriving DecidableEq, Repr

namespace Handler

/-- The scalar in an argument that is not optional. -/
def scalar? : Argument → Option Scalar
  | .value (.scalar v) => some v
  | _ => none

/-- All arguments in one text. -/
def showAll (arguments : List Argument) : Text :=
  Text.joinWith ['|'] (arguments.map Argument.render)

/-- The quotient of two integers, unless the divisor is zero or the quotient out of range. -/
def quotient (kind : IntegerKind) (a b : Int) : Except Text Text :=
  if b = 0 ∨ kind.greatest < a.tdiv b then .error "division by zero"
  else .ok (Text.ofInt (a.tdiv b))

/-- What a handler does with its arguments. -/
def run (h : Handler) (arguments : List Argument) : Except Text Text :=
  match h, arguments.filterMap scalar? with
  | .show, _ => .ok (showAll arguments)
  | .fail, _ => .error (showAll arguments)
  | .unit, _ => .ok []
  | .pong, _ => .ok "pong"
  | .add, [.float k a, .float _ b] => .ok ((Binary.add k.format a b).text k.format)
  | .div, [.integer k a, .integer _ b] => quotient k a b
  | .repeatText, [.text t, .integer _ n] => .ok (Text.replicate n.toNat t)
  | _, _ => .ok (showAll arguments)

end Handler

/-- Stock handlers of simple commands. -/
inductive SimpleHandler
  /-- Answers with a fixed text. -/
  | answer (text : Text)
  /-- Fails with a fixed text. -/
  | fail (text : Text)
  /-- Answers with the parameters. -/
  | parameters
  /-- Answers with the tokens. -/
  | tokens
  /-- Answers with the flags. -/
  | flags
  /-- Answers with the number of parameters. -/
  | count
  /-- Answers whether a flag is there. -/
  | hasFlag (key : Text)
  /-- Answers with the first parameter and fails without one. -/
  | first
deriving DecidableEq, Repr

namespace SimpleHandler

/-- What a handler does with the context of a call. -/
def run (h : SimpleHandler) (c : Context) : Except Text Text :=
  match h with
  | .answer t => .ok t
  | .fail t => .error t
  | .parameters => .ok (Text.joinWith ['+'] c.parameters)
  | .tokens => .ok (Text.joinWith ['+'] c.tokens)
  | .flags => .ok c.flags.render
  | .count => .ok (Text.ofNat c.parameters.length)
  | .hasFlag key => .ok (if c.flags.contains key then "true" else "false")
  | .first =>
    match c.parameters with
    | p :: _ => .ok p
    | [] => .error "no parameter"

end SimpleHandler

end LineDispatch
