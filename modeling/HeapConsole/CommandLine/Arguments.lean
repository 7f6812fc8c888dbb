import HeapConsole.CommandLine.Number

/-! How the words of a command line are told apart. A word that begins with a minus sign names an
option, in full, by an unambiguous beginning, or by its letter with a value behind it; negative
numbers and words with a space are plain arguments, and so is every word behind `--`. -/
namespace HeapConsole.CommandLine

inductive Flag where
  | help
  | version
  | verbose
  | keepGoing
  | echo
  | dumpHeap
  | memorySize
  | displayBase
  | format
deriving DecidableEq, Repr

structure Switch where
  names : List String
  flag : Flag
  takesValue : Bool
deriving DecidableEq, Repr

inductive Role where
  | argument
  | separator
  | unknown
  | option (switch : Switch) (isLong : Bool) (attached : Option (List Char))
deriving DecidableEq, Repr

inductive Refusal where
  | usage
  | help
  | version
deriving DecidableEq, Repr

namespace Switch

def find? (switches : List Switch) (name : String) : Option Switch :=
  switches.find? (·.names.contains name)

/-- The options that have a name which begins with `beginning`, once for each such name. -/
def beginning (switches : List Switch) (text : List Char) : List Switch :=
  switches.flatMap fun switch =>
    (switch.names.filter fun name => text.isPrefixOf name.toList).map fun _ => switch

end Switch

def splitEquals (cs : List Char) : List Char × Option (List Char) :=
  match cs.dropWhile (· != '=') with
  | [] => (cs, none)
  | _ :: value => (cs.takeWhile (· != '='), some value)

def isLongName (cs : List Char) : Bool := cs.take 2 == ['-', '-']

def plainRole (cs : List Char) : Role :=
  if isNegativeNumber cs || cs.contains ' ' then .argument else .unknown

/-- The role of a word in front of any separator; an ambiguous beginning has none. -/
def roleOf? (switches : List Switch) (word : String) : Option Role :=
  let cs := word.toList
  let (name, value) := splitEquals cs
  if cs.head? ≠ some '-' then some .argument
  else
    match Switch.find? switches word, Switch.find? switches (String.ofList name) with
    | some switch, _ => some (.option switch (isLongName cs) none)
    | none, some switch => some (.option switch (isLongName cs) value)
    | none, none =>
      if cs.length = 1 then some .argument
      else if isLongName cs then
        match Switch.beginning switches name with
        | [] => some (plainRole cs)
        | [switch] => some (.option switch true value)
        | _ => none
      else
        match Switch.find? switches (String.ofList (cs.take 2)) with
        | some switch => some (.option switch false (some (cs.drop 2)))
        | none => some (plainRole cs)

def roles? (switches : List Switch) : List String → Option (List (String × Role))
  | [] => some []
  | word :: words =>
    if word = "--" then some ((word, .separator) :: words.map fun rest => (rest, .argument))
    else do
      let role ← roleOf? switches word
      let others ← roles? switches words
      return (word, role) :: others

inductive Slot where
  | closed
  | vacant
  | filled (argument : String)
deriving DecidableEq, Repr

structure Reading (σ : Type) where
  settings : σ
  slot : Slot
  justFilled : Bool
  leftOver : Bool

abbrev Effect (σ : Type) := Flag → Option String → σ → Except Refusal σ

structure Named where
  complete : List (Flag × Option String)
  pending : Option Flag
deriving DecidableEq, Repr

/-- The value written behind the name of an option in the same word; two minus signs are none. -/
def attachedValue (cs : List Char) : Option String :=
  if cs = ['-', '-'] then none else some (String.ofList cs)

/-- Letters without values may be joined behind one minus sign, and the last may take the rest of
the word as its value. Every letter has to name an option. -/
def joined (switches : List Switch) (found : List (Flag × Option String)) :
    List Char → Except Refusal Named
  | [] => .ok ⟨found, none⟩
  | c :: rest =>
    match Switch.find? switches (String.ofList ['-', c]) with
    | none => .error .usage
    | some next =>
      if next.takesValue then
        if rest.isEmpty then .ok ⟨found, some next.flag⟩
        else .ok ⟨found ++ [(next.flag, attachedValue rest)], none⟩
      else joined switches (found ++ [(next.flag, none)]) rest

/-- The options that a word names. What is attached to an option without a value are further
letters, also behind an equals sign. -/
def named (switches : List Switch) (switch : Switch) (isLong : Bool) :
    Option (List Char) → Except Refusal Named
  | none =>
    if switch.takesValue then .ok ⟨[], some switch.flag⟩ else .ok ⟨[(switch.flag, none)], none⟩
  | some attached =>
    if switch.takesValue then .ok ⟨[(switch.flag, attachedValue attached)], none⟩
    else if isLong || attached.isEmpty then .error .usage
    else joined switches [(switch.flag, none)] attached

variable {σ : Type}

def applyAll (effect : Effect σ) (settings : σ) : List (Flag × Option String) → Except Refusal σ
  | [] => .ok settings
  | (flag, value) :: rest => do
    let next ← effect flag value settings
    applyAll effect next rest

def readWords (switches : List Switch) (effect : Effect σ) :
    List (String × Role) → Reading σ → Except Refusal (Reading σ)
  | [], reading => .ok reading
  | (word, .argument) :: rest, reading =>
    match reading.slot with
    | .vacant =>
      readWords switches effect rest { reading with slot := .filled word, justFilled := true }
    | _ => readWords switches effect rest { reading with leftOver := true, justFilled := false }
  | (_, .separator) :: rest, reading =>
    let used := reading.slot == .vacant || reading.justFilled
    readWords switches effect rest
      { reading with leftOver := reading.leftOver || !used, justFilled := false }
  | (_, .unknown) :: rest, reading =>
    readWords switches effect rest { reading with leftOver := true, justFilled := false }
  | (_, .option switch isLong attached) :: rest, reading => do
    let names ← named switches switch isLong attached
    match names.pending, rest with
    | none, rest =>
      let settings ← applyAll effect reading.settings names.complete
      readWords switches effect rest
        { reading with settings := settings, justFilled := false }
    | some flag, (value, .argument) :: rest =>
      let settings ← applyAll effect reading.settings (names.complete ++ [(flag, some value)])
      readWords switches effect rest
        { reading with settings := settings, justFilled := false }
    | some _, _ => .error .usage

end HeapConsole.CommandLine
