import LineDispatch.Interface
import LineDispatch.Text.Utf8

/-!
# The line loop

The loop writes a prompt, reads a line, has the interface answer it and writes
the answer, until the input ends, a stream fails or it is told to stop.
Results go to one channel and messages to another; what is written is kept in
order.  A line ends behind its newline byte, and is decoded on its own.
-/

namespace LineDispatch

/-- Where text is written to: results and prompts, or messages. -/
inductive Channel
  | out
  | err
deriving DecidableEq, Repr

/-- One text written to a channel. -/
structure Write where
  channel : Channel
  text : Text
deriving DecidableEq, Repr

/-- What a stretch of a run has done: what was written, the number of lines read, and the failure
that ended it. -/
structure Outcome where
  written : List Write := []
  linesRead : Nat := 0
  failure : Option Text := none
deriving DecidableEq, Repr

namespace Outcome

/-- One stretch after another; a failure in the first keeps the second from happening. -/
def andThen (a b : Outcome) : Outcome :=
  match a.failure with
  | some _ => a
  | none => ⟨a.written ++ b.written, a.linesRead + b.linesRead, b.failure⟩

end Outcome

/-- The streams of a run. -/
structure Streams where
  input : List UInt8
  /-- The failure that reading ends in, in place of the end of the input. -/
  inputFailure : Option Text := none
  /-- A channel that fails at every write, with its failure. -/
  failing : Option (Channel × Text) := none

namespace Streams

/-- Writes one text. -/
def write (s : Streams) (w : Write) : Outcome :=
  match s.failing with
  | some (channel, failure) =>
    if channel = w.channel then { failure := some failure } else { written := [w] }
  | none => { written := [w] }

/-- Writes texts one after the other, up to the first failure. -/
def writeAll (s : Streams) : List Write → Outcome
  | [] => {}
  | w :: rest => (s.write w).andThen (s.writeAll rest)

/-- Cuts bytes behind each newline. -/
def rawLines : List UInt8 → List (List UInt8)
  | [] => []
  | b :: rest =>
    if b = 10 then [b] :: rawLines rest
    else
      match rawLines rest with
      | [] => [[b]]
      | line :: lines => (b :: line) :: lines

end Streams

/-- A loop around an interface. -/
structure Loop where
  interface : Interface
  painter : Painter := .plain
  prompt : Option Text := none

namespace Loop

/-- The loop with a prompt; an empty one is none. -/
def withPrompt (l : Loop) (prompt : Text) : Loop :=
  { l with prompt := if prompt = [] then none else some prompt }

/-- A message in its colour. -/
def paint (l : Loop) (message : Text) : Text :=
  if Interface.unknownCommand.isPrefixOf message then l.painter.warn message
  else l.painter.error message

/-- What is written for a line: the listing, or the results that are not empty and then the
messages. -/
def respond (l : Loop) (line : Text) : List Write :=
  if l.interface.isHelp line then [⟨.out, l.interface.helpListing l.painter ++ ['\n']⟩]
  else
    let answer := l.interface.handle line
    (answer.results.filter (· ≠ [])).map (fun result => ⟨.out, result ++ ['\n']⟩)
      ++ answer.messages.map fun message => ⟨.err, l.paint message ++ ['\n']⟩

/-- The command in the bytes of a line, its line end left out. -/
def commandOf (raw : List UInt8) : Text :=
  Text.dropTrailing (fun c => c == '\r' || c == '\n') (Utf8.lossy raw)

/-- What is written for the bytes of a line; a blank line is passed over. -/
def respondRaw (l : Loop) (raw : List UInt8) : List Write :=
  let line := commandOf raw
  if line.isBlank then [] else l.respond line

/-- What is written before a line is read. -/
def promptWrites (l : Loop) : List Write :=
  match l.prompt with
  | some p => [⟨.out, l.painter.prompt p⟩]
  | none => []

/-- Reads one line that there is and answers it.  A line that the input fails in is lost. -/
def turn (l : Loop) (s : Streams) (raw : List UInt8) : Outcome :=
  let read : Outcome :=
    { linesRead := 1, failure := if raw.getLast? = some 10 then none else s.inputFailure }
  read.andThen (s.writeAll (l.respondRaw raw))

/-- Goes on with the lines that are left after `read` lines.  The loop is told to stop while line
`stopAt` is read, or before the first if that is zero, and stops before the next. -/
def runLines (l : Loop) (s : Streams) (stopAt : Option Nat) (read : Nat) :
    List (List UInt8) → Outcome
  | [] =>
    if stopAt = some read then {}
    else (s.writeAll l.promptWrites).andThen { failure := s.inputFailure }
  | raw :: rest =>
    if stopAt = some read then {}
    else
      (s.writeAll l.promptWrites).andThen <|
        (l.turn s raw).andThen (l.runLines s stopAt (read + 1) rest)

/-- Runs the loop. -/
def run (l : Loop) (s : Streams) (stopAt : Option Nat) : Outcome :=
  l.runLines s stopAt 0 (Streams.rawLines s.input)

end Loop

end LineDispatch
