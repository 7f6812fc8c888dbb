import HeapConsole.CommandLine.Arguments
import HeapConsole.Machine

/-! The commands, and how a command line names one. -/
namespace HeapConsole.CommandLine

inductive Format where
  | json
  | constructors
  | text
deriving DecidableEq, Repr

def Format.name : Format → String
  | .json => "json"
  | .constructors => "repr"
  | .text => "text"

structure RunOptions where
  keepGoing : Bool
  echo : Bool
  dumpHeap : Bool
deriving DecidableEq, Repr

inductive Command where
  | repl (config : Config)
  | run (path : String) (options : RunOptions) (config : Config)
  | parse (statement : String) (format : Format)
  | builtins (format : Format)
deriving DecidableEq, Repr

inductive Subcommand where
  | repl
  | run
  | parse
  | builtins
deriving DecidableEq, Repr

/-- What the options of a command have settled; a number that was taken back is missing. -/
structure Settings where
  run : RunOptions
  memorySize : Option Int
  displayBase : Option Int
  format : Format
deriving DecidableEq, Repr

def Settings.config? (settings : Settings) : Option Config := do
  return ⟨← settings.memorySize, ← settings.displayBase⟩

namespace Subcommand

def all : List Subcommand := [.repl, .run, .parse, .builtins]

def name : Subcommand → String
  | .repl => "repl"
  | .run => "run"
  | .parse => "parse"
  | .builtins => "builtins"

def ofName? (name : String) : Option Subcommand := all.find? (·.name == name)

def helpSwitch : Switch := ⟨["-h", "--help"], .help, false⟩

def machineSwitches : List Switch :=
  [⟨["--memory-size"], .memorySize, true⟩, ⟨["--display-base"], .displayBase, true⟩]

def formatSwitch : Switch := ⟨["-f", "--format"], .format, true⟩

def switches : Subcommand → List Switch
  | .repl => helpSwitch :: machineSwitches
  | .run =>
    [helpSwitch, ⟨["-k", "--keep-going"], .keepGoing, false⟩, ⟨["--echo"], .echo, false⟩,
      ⟨["--dump-heap"], .dumpHeap, false⟩] ++ machineSwitches
  | .parse => [helpSwitch, formatSwitch]
  | .builtins => [helpSwitch, formatSwitch]

def formats : Subcommand → List Format
  | .parse => [.json, .constructors]
  | .builtins => [.text, .json]
  | .repl | .run => []

def slot : Subcommand → Slot
  | .run | .parse => .vacant
  | .repl | .builtins => .closed

/-- The format other than JSON, which a format option without a value asks for. -/
def plainFormat (subcommand : Subcommand) : Format :=
  (subcommand.formats.find? (· != .json)).getD .text

def standard (subcommand : Subcommand) : Settings where
  run := ⟨false, false, false⟩
  memorySize := some Config.standard.memorySize
  displayBase := some Config.standard.displayBase
  format := subcommand.formats.head?.getD .text

/-- What an option does; one that takes a value and has none takes the setting back. -/
def effect (subcommand : Subcommand) : Effect Settings
  | .help, _, _ => .error .help
  | .keepGoing, _, settings => .ok { settings with run.keepGoing := true }
  | .echo, _, settings => .ok { settings with run.echo := true }
  | .dumpHeap, _, settings => .ok { settings with run.dumpHeap := true }
  | .memorySize, some text, settings =>
    match readInteger? text with
    | some size => .ok { settings with memorySize := some size }
    | none => .error .usage
  | .memorySize, none, settings => .ok { settings with memorySize := none }
  | .displayBase, some text, settings =>
    match readInteger? text with
    | some base =>
      if base = 10 ∨ base = 16 then .ok { settings with displayBase := some base }
      else .error .usage
    | none => .error .usage
  | .displayBase, none, settings => .ok { settings with displayBase := none }
  | .format, some text, settings =>
    match subcommand.formats.find? (·.name == text) with
    | some format => .ok { settings with format := format }
    | none => .error .usage
  | .format, none, settings => .ok { settings with format := subcommand.plainFormat }
  -- Unreachable: the other options stand in front of the name of a command.
  | _, _, _ => .error .usage

def command? (subcommand : Subcommand) (settings : Settings) (slot : Slot) : Option Command :=
  match subcommand, slot with
  | .repl, _ => settings.config?.map .repl
  | .run, .filled path => settings.config?.map (.run path settings.run)
  | .parse, .filled statement => some (.parse statement settings.format)
  | .builtins, _ => some (.builtins settings.format)
  | _, _ => none

def read (subcommand : Subcommand) (words : List String) : Except Refusal (Command × Bool) := do
  match roles? subcommand.switches words with
  | none => .error .usage
  | some roles =>
    let reading ← readWords subcommand.switches subcommand.effect roles
      ⟨subcommand.standard, subcommand.slot, false, false⟩
    match subcommand.command? reading.settings reading.slot with
    | some command => .ok (command, reading.leftOver)
    | none => .error .usage

end Subcommand

namespace Command

def globalSwitches : List Switch :=
  [Subcommand.helpSwitch, ⟨["--version"], .version, false⟩, ⟨["-v", "--verbose"], .verbose, false⟩]

def globalEffect : Effect Unit
  | .help, _, _ => .error .help
  | .version, _, _ => .error .version
  | _, _, _ => .ok ()

def splitName : List (String × Role) → List (String × Role) × List String
  | [] => ([], [])
  | (word, .argument) :: rest => ([], word :: rest.map Prod.fst)
  | (word, .separator) :: rest => ([], word :: rest.map Prod.fst)
  | entry :: rest => (entry :: (splitName rest).1, (splitName rest).2)

/-- The command that a command line names. Words left over, before or behind the name, are
refused, but only after every other word has had its say. -/
def ofArguments (words : List String) : Except Refusal Command := do
  match roles? globalSwitches words with
  | none => .error .usage
  | some roles =>
    let (before, rest) := splitName roles
    let reading ← readWords globalSwitches globalEffect before ⟨(), .closed, false, false⟩
    match rest with
    | [] => .error .usage
    | name :: arguments =>
      match Subcommand.ofName? name with
      | none => .error .usage
      | some subcommand =>
        let (command, leftOver) ← subcommand.read arguments
        if reading.leftOver || leftOver then .error .usage else .ok command

end Command

end HeapConsole.CommandLine
