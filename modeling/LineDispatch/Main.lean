import LineDispatch.Demo

/-!
# The program

Reads the arguments and the configuration file, and runs the lines that were
given or those on the standard input, one at a time as they come.
-/

namespace LineDispatch.Program

/-- What is found at a path. -/
def contentAt (path : Text) : IO FileContent := do
  try
    return .bytes (← IO.FS.readBinFile (String.ofList path)).toList
  catch
    | .noFileOrDirectory .. => return .missing
    | _ => return .directory

/-- Writes what is to be written, each text to its channel. -/
def perform (writes : List Write) : IO Unit := do
  for w in writes do
    let stream ← match w.channel with
      | .out => IO.getStdout
      | .err => IO.getStderr
    stream.putStr (String.ofList w.text)
    stream.flush

/-- Reads the bytes of a line up to its newline or the end of the input. -/
partial def readRaw (input : IO.FS.Stream) (line : Array UInt8) : IO (List UInt8) := do
  let bytes ← input.read 1
  match bytes.toList with
  | [] => return line.toList
  | b :: _ => if b = 10 then return (line.push b).toList else readRaw input (line.push b)

/-- Answers the lines of the input until it ends. -/
partial def answerLines (l : Loop) (input : IO.FS.Stream) : IO Unit := do
  perform l.promptWrites
  let raw ← readRaw input #[]
  if raw.isEmpty then return
  perform (l.respondRaw raw)
  answerLines l input

/-- Writes a report and gives its code. -/
def deliver (r : Demo.Report) : IO UInt32 := do
  perform [⟨.err, r.err⟩, ⟨.out, r.out⟩]
  return r.code.toUInt32

/-- Runs the program with its arguments and gives its exit code. -/
def run (arguments : List Text) : IO UInt32 := do
  match Options.parse arguments with
  | .error stop => deliver (Demo.stopped stop)
  | .ok options =>
    let file ← contentAt (Demo.configPath options)
    let directory ← IO.currentDir
    match Demo.configure options directory.toString.toList file with
    | .error report => deliver report
    | .ok (config, notes) =>
      perform [⟨.err, notes⟩]
      if options.lines = [] then
        answerLines (Demo.loop options config) (← IO.getStdin)
        return 0
      else
        let i := Demo.interface config options.everyHandler
        deliver (Demo.runLines i (Demo.painter options config) options.lines)

end LineDispatch.Program

def main (arguments : List String) : IO UInt32 :=
  LineDispatch.Program.run (arguments.map String.toList)
