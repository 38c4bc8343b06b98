import LineDispatch.Flags

/-!
# The arguments of one call

A context holds the positional parameters of a call, its flags, and the raw
tokens they come from, which are kept so that an error in a flag can point at
its token.  Narrowing a context drops leading parameters and leaves the flags.
-/

namespace LineDispatch

/-- The arguments of one call of a command. -/
structure Context where
  parameters : List Text := []
  flags : Flags := {}
  /-- Parameters and flags in the order in which they were given. -/
  tokens : List Text := []
deriving DecidableEq

namespace Context

/-- A context of given parameters and flags; its tokens are the parameters, then the flags. -/
def ofParts (parameters : List Text) (flags : Flags) : Context :=
  ⟨parameters, flags, parameters ++ flags.tokens⟩

/-- The context of the tokens that follow a command's name. -/
def ofTokens (tokens : List Text) : Except ParseError Context :=
  (Flags.extract tokens).map fun flags => ⟨Flags.positional tokens, flags, tokens⟩

/-- The index among the tokens of the value of the flag `key`.  A repeated flag counts where it
stands last. -/
def flagValueIndex (c : Context) (key : Text) : Option Nat :=
  (Item.valueIndex key 0 (Item.scan c.tokens)).filter (· < c.tokens.length)

/-- The same flags with other parameters. -/
def withParameters (c : Context) (parameters : List Text) : Context :=
  { c with
    parameters
    tokens := parameters ++ (Item.flagItems (Item.scan c.tokens)).flatMap Item.tokens }

/-- The context without its first `count` parameters. -/
def skip (c : Context) (count : Nat) : Context :=
  { c with
    parameters := c.parameters.drop count
    tokens := (Item.dropPositional count (Item.scan c.tokens)).flatMap Item.tokens }

@[simp] theorem skip_parameters (c : Context) (n : Nat) :
    (c.skip n).parameters = c.parameters.drop n := rfl

end Context

end LineDispatch
