import HeapConsole.Value

/-! How the console shows integers, values and heap bytes in its display base. -/
namespace HeapConsole

inductive Base where
  | decimal
  | hexadecimal
deriving DecidableEq, Repr

namespace Base

def number : Base → Nat
  | .decimal => 10
  | .hexadecimal => 16

def ofNumber? (n : Int) : Option Base :=
  if n = 10 then some .decimal else if n = 16 then some .hexadecimal else none

/-- Sixteen asks for hexadecimal, and every other number for decimal. -/
def ofNumber (n : Int) : Base := if n = 16 then .hexadecimal else .decimal

/-- An integer too long for decimal is shown in hexadecimal. -/
def showInt (base : Base) (n : Int) : String :=
  match base with
  | .hexadecimal => Numeral.hexadecimal n
  | .decimal => if Numeral.Writable n then Numeral.decimal n else Numeral.hexadecimal n

def dumpDigits (base : Base) (n : Nat) : List Char :=
  match base with
  | .hexadecimal => Numeral.upperHexDigits n
  | .decimal => Nat.toDigits 10 n

def dumpFill : Base → Char
  | .hexadecimal => '0'
  | .decimal => ' '

def cellWidth : Base → Nat
  | .hexadecimal => 2
  | .decimal => 3

def dumpNumber (base : Base) (width n : Nat) : List Char :=
  Numeral.padLeft width base.dumpFill (base.dumpDigits n)

end Base

def escapeShown (c : Char) : List Char :=
  if c = '\\' ∨ c = Text.quotationMark then ['\\', c] else [c]

def showString (text : String) : String :=
  String.ofList
    (Text.quotationMark :: text.toList.flatMap escapeShown ++ [Text.quotationMark])

def Value.display (base : Base) : Value → String
  | .int n => base.showInt n
  | .char byte =>
    Text.quote (String.singleton (Char.ofNat byte.toNat)) ++ " (" ++ base.showInt byte.toNat ++ ")"
  | .double d => d.text
  | .string s => showString s
  | .pointer pointee address =>
    "(" ++ (DataType.pointer pointee).name ++ ") " ++ base.showInt address
  | .native builtin => "<native function " ++ builtin.signature.text ++ ">"

def Result.display (base : Base) : Result → String
  | .void => ""
  | .value v => v.display base

namespace Dump

def rows (width : Nat) (data : List UInt8) : List (List UInt8) :=
  if data.length = 0 ∨ width = 0 then [] else data.take width :: rows width (data.drop width)
termination_by data.length
decreasing_by simp only [List.length_drop]; omega

/-- The width of the last address. -/
def addressWidth (base : Base) (length : Nat) : Nat := (base.dumpDigits (length - 1)).length

def row (base : Base) (addressWidth address : Nat) (bytes : List UInt8) : String :=
  String.ofList (base.dumpNumber addressWidth address) ++ ": " ++
    " ".intercalate (bytes.map fun byte =>
      String.ofList (base.dumpNumber base.cellWidth byte.toNat))

def lines (base : Base) (width : Nat) (data : List UInt8) : List String :=
  (rows width data).zipIdx.map fun (bytes, k) =>
    row base (addressWidth base data.length) (k * width) bytes

/-- Rows of the given width; there are none of a negative width, and zero is no width. -/
def text? (base : Base) (width : Int) (data : List UInt8) : Option String :=
  if width = 0 then none else some ("\n".intercalate (lines base width.toNat data))

end Dump

end HeapConsole
