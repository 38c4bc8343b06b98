import LineDispatch.Argument

/-!
# Reading plans

A type parser says what it reads and what it does with the answers, and leaves
the reading to whoever runs it.  Such a plan is a tree of requests, each with
the rest of the plan for every answer, so that a plan can look at a call only
through the requests there are.  A request that can fail also has a plan for
every error; most plans pass the error on.
-/

namespace LineDispatch

/-- A plan of reads that ends in a result or fails. -/
inductive ReadPlan (α : Type) : Type
  | done (result : α)
  | fail (message : Text)
  /-- Fails with the error of a read. -/
  | pass (error : CommandError)
  /-- Reads the next tokens as an argument; there may be nothing to bind. -/
  | read (type : ArgumentType) (next : Option Argument → ReadPlan α)
    (rescue : CommandError → ReadPlan α)
  /-- Reads the value of a flag as an argument, which takes no positional token. -/
  | flag (type : ArgumentType) (key : Text) (next : Option Argument → ReadPlan α)
    (rescue : CommandError → ReadPlan α)
  /-- Takes the next token as it is. -/
  | token (next : Option Text → ReadPlan α)
  /-- Asks for the index of the next token. -/
  | position (next : Nat → ReadPlan α)
  /-- Asks for all positional parameters of the call. -/
  | parameters (next : List Text → ReadPlan α)
  /-- Asks for the flags of the call. -/
  | flags (next : Flags → ReadPlan α)
  /-- Asks for the tokens of the call, flags among them. -/
  | tokens (next : List Text → ReadPlan α)

namespace ReadPlan

variable {α β : Type}

/-- One plan after another. -/
def bind : ReadPlan α → (α → ReadPlan β) → ReadPlan β
  | .done a, f => f a
  | .fail m, _ => .fail m
  | .pass e, _ => .pass e
  | .read type next rescue, f =>
    .read type (fun a => (next a).bind f) fun e => (rescue e).bind f
  | .flag type key next rescue, f =>
    .flag type key (fun a => (next a).bind f) fun e => (rescue e).bind f
  | .token next, f => .token fun t => (next t).bind f
  | .position next, f => .position fun n => (next n).bind f
  | .parameters next, f => .parameters fun ps => (next ps).bind f
  | .flags next, f => .flags fun fl => (next fl).bind f
  | .tokens next, f => .tokens fun ts => (next ts).bind f

instance : Monad ReadPlan where
  pure := .done
  bind := bind

end ReadPlan

/-- How values of a custom type are read: a plan for their parts. -/
abbrev TypeParser := ReadPlan (List Scalar)

/-- The parsers that are known, each under the full name of its type. -/
abbrev TypeParsers := Table TypeParser

end LineDispatch
