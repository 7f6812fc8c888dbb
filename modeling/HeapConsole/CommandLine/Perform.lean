import HeapConsole.CommandLine.Command
import HeapConsole.Console
import HeapConsole.Statement.Dump

/-! What the commands print and how they exit: with 0 if all went well, with 1 if a statement
failed, and with 2 if something around the statements did. One of these is a host that has no room
for the heap. How much room there is stays open, and only a whole command line takes a bound for
it. -/
namespace HeapConsole.CommandLine

def version : String := "0.1.0"

structure Outcome where
  exit : Nat
  stdout : String
  stderr : String
deriving DecidableEq, Repr

namespace Outcome

def refused : Outcome := ⟨2, "", ""⟩

def printed (exit : Nat) (stdout : String) : Outcome := ⟨exit, stdout, ""⟩

end Outcome

def prompt : String := "> "

def line (text : String) : String := text ++ "\n"

def lines (texts : List String) : String := String.join (texts.map line)

def shown (items : List Item) : List String :=
  (items.filter fun item => item.style != .command).map Item.text

/-- A console of exactly the given settings, on a host that has room for `heapLimit` bytes of
heap. -/
def console? (heapLimit : Int) (config : Config) : Option Console :=
  if config.warnings.isEmpty ∧ config.memorySize ≤ heapLimit then some (.ofConfig config) else none

-- Sixteen is a width, so there always is a dump.
def dump (console : Console) : String := (console.heapDump? 16).getD ""

inductive Reply where
  | quit
  | aborted (console : Console)
  | continued (output : String) (console : Console)

def reply (console : Console) (input : String) : Reply :=
  let word := Text.strip input
  if word = "exit" ∨ word = "quit" then .quit
  else if word = "heap" then .continued (line (dump console)) console
  else
    match console.execute input with
    | (some items, after) => .continued (lines (shown items)) after
    | (none, after) => .aborted after

/-- The session of a console with the given lines of input. The end of the input ends the prompt
line. -/
def session (console : Console) : List String → Nat × String
  | [] => (0, prompt ++ "\n")
  | input :: inputs =>
    match reply console input with
    | .quit => (0, prompt)
    | .aborted _ => (2, prompt)
    | .continued output after =>
      let (exit, rest) := session after inputs
      (exit, prompt ++ output ++ rest)

def repl (heapLimit : Int) (config : Config) (stdin : String) : Outcome :=
  match console? heapLimit config with
  | none => .refused
  | some console =>
    let (exit, output) := session console (Text.inputLines stdin)
    .printed exit (lines (shown console.history) ++ output)

structure Progress where
  console : Console
  printed : List String
  failed : Bool
  aborted : Bool

def isSkipped (text : String) : Bool := text.isEmpty || ['/', '/'].isPrefixOf text.toList

def runLines (options : RunOptions) (console : Console) : List String → Progress
  | [] => ⟨console, [], false, false⟩
  | raw :: rest =>
    let text := Text.strip raw
    if isSkipped text then runLines options console rest
    else
      match console.execute text with
      | (none, after) => ⟨after, [], false, true⟩
      | (some items, after) =>
        let printed := (if options.echo then [prompt ++ text] else []) ++ shown items
        let failed := items.any (·.style == .error)
        if failed && !options.keepGoing then ⟨after, printed, true, false⟩
        else
          let later := runLines options after rest
          { later with printed := printed ++ later.printed, failed := failed || later.failed }

/-- Runs a file, of which `content` is the text if it can be read. -/
def run (heapLimit : Int) (options : RunOptions) (config : Config) (content : Option String) :
    Outcome :=
  match console? heapLimit config, content with
  | some console, some text =>
    let progress := runLines options console (Text.splitLines text)
    let output := lines progress.printed
    if progress.aborted then .printed 2 output
    else
      .printed (if progress.failed then 1 else 0)
        (output ++ if options.dumpHeap then line (dump progress.console) else "")
  | _, _ => .refused

/-- Integers beyond the digit limit cannot be written. -/
def parse (statement : String) (format : Format) : Outcome :=
  match Grammar.parse statement with
  | .error fault => ⟨1, "", line fault.line⟩
  | .ok node =>
    match Failure.guard node.toJson.integers () with
    | .ok () => .printed 0 (line (if format = .json then node.toJson.text else node.describe))
    | .error _ => .refused

def builtins (format : Format) : Outcome :=
  .printed 0
    (match format with
    | .json => line Builtin.registryJson.text
    | _ => lines (Builtin.all.map fun builtin => builtin.signature.listing))

def Command.perform (heapLimit : Int) (command : Command) (content : Option String)
    (stdin : String) : Outcome :=
  match command with
  | .repl config => CommandLine.repl heapLimit config stdin
  | .run _ options config => CommandLine.run heapLimit options config content
  | .parse statement format => CommandLine.parse statement format
  | .builtins format => CommandLine.builtins format

def Refusal.outcome : Refusal → Outcome
  | .usage => .refused
  | .help => .printed 0 ""
  | .version => .printed 0 (line ("cmem " ++ CommandLine.version))

/-- The room for heaps that the host of a whole command line is taken to have, 64 GiB. It stands for
the memory of whatever host that is. -/
def hostHeapLimit : Int := 68719476736

def perform (words : List String) (files : String → Option String) (stdin : String) : Outcome :=
  match Command.ofArguments words with
  | .error refusal => refusal.outcome
  | .ok command =>
    let content := match command with
      | .run path _ _ => files path
      | _ => none
    command.perform hostHeapLimit content stdin

end HeapConsole.CommandLine
