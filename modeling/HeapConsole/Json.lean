import HeapConsole.Double.Text
import HeapConsole.Text.Quoted

/-! JSON values whose members keep their order, and their indented ASCII text. -/
namespace HeapConsole

inductive Json where
  | null
  | int (value : Int)
  | double (value : Double)
  | string (value : String)
  | array (items : List Json)
  | object (members : List (String × Json))
deriving Repr

namespace Json

def unitEscape (n : Nat) : List Char := '\\' :: 'u' :: Text.hexDigits 4 n

/-- Characters outside printable ASCII are escaped, those beyond sixteen bits as two units. -/
def escapeChar (c : Char) : List Char :=
  let n := c.toNat
  if c = Text.quotationMark ∨ c = '\\' then ['\\', c]
  else if c = '\n' then ['\\', 'n']
  else if c = '\r' then ['\\', 'r']
  else if c = '\t' then ['\\', 't']
  else if n = 8 then ['\\', 'b']
  else if n = 12 then ['\\', 'f']
  else if 0x20 ≤ n ∧ n ≤ 0x7e then [c]
  else if n < 0x10000 then unitEscape n
  else unitEscape (0xd800 + (n - 0x10000) / 0x400) ++ unitEscape (0xdc00 + (n - 0x10000) % 0x400)

def stringText (text : String) : String :=
  String.ofList (Text.quotationMark :: text.toList.flatMap escapeChar ++ [Text.quotationMark])

def doubleText : Double → String
  | .nan => "NaN"
  | .infinity negative => if negative then "-Infinity" else "Infinity"
  | number => number.text

def newline (depth : Nat) : String := "\n".pushn ' ' (2 * depth)

def enclose (depth : Nat) (opening closing : String) (parts : List String) : String :=
  if parts.isEmpty then opening ++ closing
  else opening ++ newline (depth + 1) ++ ("," ++ newline (depth + 1)).intercalate parts ++
    newline depth ++ closing

mutual

def textAt (depth : Nat) : Json → String
  | .null => "null"
  | .int value => Numeral.decimal value
  | .double value => doubleText value
  | .string value => stringText value
  | .array items => enclose depth "[" "]" (itemTexts (depth + 1) items)
  | .object members => enclose depth "\x7b" "\x7d" (memberTexts (depth + 1) members)

def itemTexts (depth : Nat) : List Json → List String
  | [] => []
  | item :: items => item.textAt depth :: itemTexts depth items

def memberTexts (depth : Nat) : List (String × Json) → List String
  | [] => []
  | (name, value) :: members =>
    (stringText name ++ ": " ++ value.textAt depth) :: memberTexts depth members

end

def text (json : Json) : String := json.textAt 0

mutual

/-- The integers that the text writes in full. -/
def integers : Json → List Int
  | .int value => [value]
  | .array items => itemIntegers items
  | .object members => memberIntegers members
  | _ => []

def itemIntegers : List Json → List Int
  | [] => []
  | item :: items => item.integers ++ itemIntegers items

def memberIntegers : List (String × Json) → List Int
  | [] => []
  | (_, value) :: members => value.integers ++ memberIntegers members

end

end Json

end HeapConsole
