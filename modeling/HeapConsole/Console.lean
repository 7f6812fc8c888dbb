import HeapConsole.Evaluate
import HeapConsole.Grammar

/-! The console: a machine and the transcript of the lines it ran. A line is recorded as a command,
then its result or its fault follows, and a `clear()` in it drops everything recorded before the
outcome of the line. Of the limits of a host only that on the digits of a written integer is
modelled, and none on recursion or memory. -/
namespace HeapConsole

def Machine.run (machine : Machine) (text : String) : Except Failure Result × Machine :=
  match Grammar.parse text with
  | .error fault => (.error (.fault fault), machine)
  | .ok node => node.evaluate.runOn machine

inductive Style where
  | command
  | error
  | info
deriving DecidableEq, Repr

def Style.name : Style → String
  | .command => "command"
  | .error => "error"
  | .info => "info"

structure Item where
  style : Style
  text : String
deriving DecidableEq, Repr

structure Console where
  machine : Machine
  history : List Item
deriving DecidableEq, Repr

namespace Console

def greeting : List Item := [⟨.info, "-> Type help() for usage."⟩]

def helpText : String :=
  "\n".intercalate
    (["Statements: declarations (int x), assignments (x = 5, *p = 1),",
      "arithmetic (+ - * /), casts ((char) 65) and dereferences (*p).",
      "Types: int char double string int* char*",
      "Builtins:"] ++ Builtin.all.map fun builtin => "  " ++ builtin.signature.listing)

def ofConfig (config : Config) : Console := ⟨.ofConfig config true, greeting⟩

def record (console : Console) (style : Style) (text : String) : Console :=
  { console with history := console.history ++ [⟨style, text⟩] }

def resetHistory (console : Console) : Console := { console with history := greeting }

/-- A request for help, whatever the number of semicolons behind it. -/
def isHelp (text : String) : Bool :=
  let bare := String.ofList (text.toList.reverse.dropWhile (· == ';')).reverse
  bare == "help" || bare == "help()"

/-- Runs a statement; a request to clear the history is granted at once. -/
def run (console : Console) (text : String) : Except Failure Result × Console :=
  let (outcome, machine) := console.machine.run text
  let cleared := machine.clears ≠ console.machine.clears
  (outcome, ⟨machine, if cleared then [] else console.history⟩)

/-- Records the outcome of a line; a void result leaves no trace, and only an integer beyond the
digit limit cannot be recorded. -/
def conclude (console : Console) : Except Failure Result → Option Console
  | .error .digitLimit => none
  | .error (.fault fault) => some (console.record .error fault.line)
  | .ok .void => some console
  | .ok (.value v) => some (console.record .info ("-> " ++ v.display console.machine.base))

/-- Runs one line and gives the items behind those that were there before. Blank lines do nothing,
and there is no answer if an integer beyond the digit limit had to be written. -/
def execute (console : Console) (line : String) : Option (List Item) × Console :=
  let text := Text.strip line
  let start := console.history.length
  let recorded := console.record .command text
  if text.isEmpty then (some [], console)
  else if isHelp text then
    let answered := recorded.record .info helpText
    (some (answered.history.drop start), answered)
  else
    let (outcome, after) := recorded.run text
    match after.conclude outcome with
    | some concluded =>
      (some (concluded.history.drop (min start concluded.history.length)), concluded)
    | none => (none, after)

def heapDump? (console : Console) (width : Int) : Option String :=
  Dump.text? console.machine.base width console.machine.memory.heap.bytes.toList

end Console

end HeapConsole
