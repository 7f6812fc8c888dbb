import HeapConsole.Numeral
import HeapConsole.Text.Blank
import HeapConsole.Text.ScriptDigit

/-! Numbers on the command line: digits of any script, single underscores between digits, a sign
and blanks around. -/
namespace HeapConsole.CommandLine

def digitValues? : List Char → Option (List Nat)
  | [] => none
  | [c] => (Text.scriptDigit? c).map ([·])
  | c :: '_' :: rest => do
    let digit ← Text.scriptDigit? c
    let digits ← digitValues? rest
    return digit :: digits
  | c :: rest => do
    let digit ← Text.scriptDigit? c
    let digits ← digitValues? rest
    return digit :: digits

def readNatural? (cs : List Char) : Option Nat := do
  let digits ← digitValues? cs
  if digits.length ≤ Numeral.maxDigits then
    some (digits.foldl (fun sofar digit => sofar * 10 + digit) 0)
  else none

def readInteger? (text : String) : Option Int :=
  match Text.trimBlanks text.toList with
  | '-' :: digits => (readNatural? digits).map fun n => -(n : Int)
  | '+' :: digits => (readNatural? digits).map fun n => (n : Int)
  | digits => (readNatural? digits).map fun n => (n : Int)

/-- Digits only, or a fraction; one line feed may follow. -/
def isPlainMagnitude (cs : List Char) : Bool :=
  let body := if cs.getLast? = some '\n' then cs.dropLast else cs
  let isDigit := fun c => (Text.scriptDigit? c).isSome
  let digits := body.takeWhile isDigit
  match body.dropWhile isDigit with
  | [] => !digits.isEmpty
  | '.' :: fraction => !fraction.isEmpty && fraction.all isDigit
  | _ => false

def isNegativeNumber (cs : List Char) : Bool :=
  match cs with
  | '-' :: magnitude => isPlainMagnitude magnitude
  | _ => false

end HeapConsole.CommandLine
