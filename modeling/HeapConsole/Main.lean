import HeapConsole.CommandLine.Perform

/-! The command-line program: reads the file of a run or the lines of a session, and prints. -/
namespace HeapConsole.Main

open CommandLine

def emit (outcome : Outcome) : IO UInt32 := do
  IO.print outcome.stdout
  IO.eprint outcome.stderr
  return UInt32.ofNat outcome.exit

def fileText (path : String) : IO (Option String) := do
  try
    return String.fromUTF8? (← IO.FS.readBinFile path)
  catch _ =>
    return none

/-- A line of input without its line feed, or nothing at the end of the input. -/
def readLine (stdin : IO.FS.Stream) : IO (Option String) := do
  let input ← stdin.getLine
  if input.isEmpty then return none
  return some (if input.endsWith "\n" then (input.dropEnd 1).toString else input)

partial def interact (stdin stdout : IO.FS.Stream) (console : Console) : IO UInt32 := do
  stdout.putStr prompt
  stdout.flush
  match ← readLine stdin with
  | none =>
    stdout.putStr "\n"
    return 0
  | some input =>
    match reply console input with
    | .quit => return 0
    | .aborted _ => return 2
    | .continued output after =>
      stdout.putStr output
      interact stdin stdout after

def startRepl (config : Config) : IO UInt32 := do
  match console? hostHeapLimit config with
  | none => emit .refused
  | some console =>
    IO.print (lines (shown console.history))
    interact (← IO.getStdin) (← IO.getStdout) console

end HeapConsole.Main

open HeapConsole HeapConsole.CommandLine HeapConsole.Main in
def main (words : List String) : IO UInt32 := do
  match Command.ofArguments words with
  | .error refusal => emit refusal.outcome
  | .ok (.repl config) => startRepl config
  | .ok (.run path options config) => emit (CommandLine.run hostHeapLimit options config (← fileText path))
  | .ok command => emit (command.perform hostHeapLimit none "")
