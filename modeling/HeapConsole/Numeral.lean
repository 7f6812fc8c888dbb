/-! Integers as text. A numeral is written in base ten or sixteen with a leading minus sign, and
decimal numerals of more than `maxDigits` digits are neither read nor written. -/
namespace HeapConsole.Numeral

/-- The longest decimal numeral, its sign not counted. -/
def maxDigits : Nat := 4300

def Writable (n : Int) : Prop := n.natAbs < Nat.pow 10 maxDigits

instance (n : Int) : Decidable (Writable n) := inferInstanceAs (Decidable (_ < _))

def sign (n : Int) : String := if n < 0 then "-" else ""

def decimal (n : Int) : String := sign n ++ toString n.natAbs

def upperHexDigits (n : Nat) : List Char := (Nat.toDigits 16 n).map Char.toUpper

def hexadecimal (n : Int) : String := sign n ++ "0x" ++ String.ofList (upperHexDigits n.natAbs)

def padLeft (width : Nat) (fill : Char) (digits : List Char) : List Char :=
  List.replicate (width - digits.length) fill ++ digits

def isDigit (c : Char) : Bool := '0' ≤ c && c ≤ '9'

def isHexDigit (c : Char) : Bool := isDigit c || ('a' ≤ c && c ≤ 'f') || ('A' ≤ c && c ≤ 'F')

def digitValue (c : Char) : Nat :=
  if isDigit c then c.toNat - 48
  else if 'a' ≤ c ∧ c ≤ 'f' then c.toNat - 87
  else c.toNat - 55

/-- The number written by `digits`, the most significant digit first. -/
def value (base : Nat) (digits : List Char) : Nat :=
  digits.foldl (fun sofar c => sofar * base + digitValue c) 0

def splitSign : List Char → Bool × List Char
  | '-' :: rest => (true, rest)
  | digits => (false, digits)

def signed (negative : Bool) (magnitude : Nat) : Int :=
  if negative then -(magnitude : Int) else magnitude

end HeapConsole.Numeral
