import LineDispatch.ParseError
import LineDispatch.Table

/-!
# Flags among the tokens

A token that begins with a dash is a flag.  `--switch` stands alone; `-k` takes
the token after it as its value, whatever that token looks like.  All else is
positional.  `Item.scan` reads a list of tokens in this way once, and every
other question about flags is asked of the items it finds, which together are
the tokens again (`tokens_scan`).
-/

namespace LineDispatch

/-- One step in reading tokens: a positional token, or a flag with what belongs to it. -/
inductive Item
  | positional (token : Text)
  /-- A flag with two dashes, which never takes a value. -/
  | switch (key : Text)
  /-- A flag with one dash and the token after it. -/
  | option (key value : Text)
  /-- A flag with one dash and no token after it. -/
  | dangling (key : Text)
deriving DecidableEq, Repr

namespace Item

/-- The tokens the item was read from. -/
def tokens : Item → List Text
  | .positional t => [t]
  | .switch k => [k]
  | .option k v => [k, v]
  | .dangling k => [k]

/-- The item's token, if it is positional. -/
def positional? : Item → Option Text
  | .positional t => some t
  | _ => none

/-- The binding the item contributes, if it is a flag with all it needs. -/
def binding? : Item → Option (Text × Option Text)
  | .switch k => some (k, none)
  | .option k v => some (k, some v)
  | _ => none

/-- The key of a flag that lacks its value. -/
def dangling? : Item → Option Text
  | .dangling k => some k
  | _ => none

/-- Whether a token is a flag. -/
def isFlag (token : Text) : Bool := token.opensWith '-'

/-- Whether a token is a flag that never takes a value. -/
def isSwitch (token : Text) : Bool :=
  match token with
  | '-' :: '-' :: _ => true
  | _ => false

/-- Reads a list of tokens item by item. -/
def scan : List Text → List Item
  | [] => []
  | token :: rest =>
    if isSwitch token then .switch token :: scan rest
    else if isFlag token then
      match rest with
      | [] => [.dangling token]
      | value :: rest' => .option token value :: scan rest'
    else .positional token :: scan rest

/-- No token is lost or invented. -/
@[simp] theorem tokens_scan (ts : List Text) : (scan ts).flatMap tokens = ts := by
  fun_induction scan ts <;> simp_all [tokens]

/-- The items without the first `count` positional ones. -/
def dropPositional : Nat → List Item → List Item
  | _, [] => []
  | count + 1, .positional _ :: rest => dropPositional count rest
  | count, item :: rest => item :: dropPositional count rest

/-- The items that are not positional. -/
def flagItems (items : List Item) : List Item := items.filter (·.positional?.isNone)

/-- Where the last flag `key` with one dash has its value, counting the tokens of the items
from `start`; the value of a dangling flag would stand after the last token. -/
def valueIndex (key : Text) : Nat → List Item → Option Nat
  | _, [] => none
  | start, item :: rest =>
    match valueIndex key (start + item.tokens.length) rest with
    | some i => some i
    | none =>
      match item with
      | .option k _ => if k = key then some (start + 1) else none
      | .dangling k => if k = key then some (start + 1) else none
      | _ => none

end Item

/-- The flags of one call: keys, dashes included, with the values of those that take one. -/
abbrev Flags := Table (Option Text)

namespace Flags

/-- The positional tokens among `tokens`. -/
def positional (tokens : List Text) : List Text := (Item.scan tokens).filterMap Item.positional?

/-- The flags among `tokens`; of two with one key the later holds.  A flag that lacks its value
is the last token, and the error points at it. -/
def extract (tokens : List Text) : Except ParseError Flags :=
  match (Item.scan tokens).getLast?.bind Item.dangling? with
  | some flag => .error ⟨.missingFlagValue flag, tokens, tokens.length - 1⟩
  | none => .ok (Table.ofList ((Item.scan tokens).filterMap Item.binding?))

/-- The value of the flag `key`, if the flag is there and carries one. -/
def value? (flags : Flags) (key : Text) : Option Text := (flags.get? key).join

/-- The flags as tokens, in the order of their keys. -/
def tokens (flags : Flags) : List Text :=
  flags.entries.flatMap fun (key, value) => key :: value.toList

end Flags

end LineDispatch
