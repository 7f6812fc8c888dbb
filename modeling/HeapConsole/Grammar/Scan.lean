import HeapConsole.Numeral
import HeapConsole.Text.Quoted

/-! The shapes of tokens. Each scanner splits the longest token of its shape from the front of a
text, or finds none. -/
namespace HeapConsole.Grammar

/-- A token and the text behind it. -/
abbrev Scanner := List Char → Option (List Char × List Char)

def isNameStart (c : Char) : Bool := ('a' ≤ c && c ≤ 'z') || ('A' ≤ c && c ≤ 'Z') || c == '_'

def isNameChar (c : Char) : Bool := isNameStart c || Numeral.isDigit c

namespace Scan

def keywords : List (List Char) :=
  ["void".toList, "int".toList, "char".toList, "double".toList, "string".toList]

def afterWord (word text : List Char) : Option (List Char) :=
  match word, text with
  | [], [] => some []
  | [], c :: rest => if isNameChar c then none else some (c :: rest)
  | _ :: _, [] => none
  | c :: word, d :: rest => if c = d then afterWord word rest else none

def typeKeyword : Scanner := fun text =>
  keywords.findSome? fun word => (afterWord word text).map fun rest => (word, rest)

def name : Scanner
  | [] => none
  | c :: rest =>
    if isNameStart c then some (c :: rest.takeWhile isNameChar, rest.dropWhile isNameChar) else none

def oneOf (accepts : Char → Bool) : Scanner
  | [] => none
  | c :: rest => if accepts c then some ([c], rest) else none

def someOf (accepts : Char → Bool) : Scanner := fun text =>
  match text.takeWhile accepts with
  | [] => none
  | c :: cs => some (c :: cs, text.dropWhile accepts)

def signed (scan : Scanner) : Scanner
  | '-' :: rest => (scan rest).map fun (lexeme, final) => ('-' :: lexeme, final)
  | text => scan text

def integer : Scanner := signed (someOf Numeral.isDigit)

def isHexMark (c : Char) : Bool := c == 'x' || c == 'X'

def hexMagnitude : Scanner
  | '0' :: mark :: rest =>
    if isHexMark mark then
      (someOf Numeral.isHexDigit rest).map fun (digits, final) => ('0' :: mark :: digits, final)
    else none
  | _ => none

def hexadecimal : Scanner := signed hexMagnitude

def isExponentMark (c : Char) : Bool := c == 'e' || c == 'E'

def isSign (c : Char) : Bool := c == '+' || c == '-'

/-- The exponent of a double, or nothing where there is no complete one. -/
def exponent (text : List Char) : List Char × List Char :=
  match text with
  | mark :: sign :: rest =>
    if isExponentMark mark then
      if isSign sign then
        match someOf Numeral.isDigit rest with
        | some (digits, final) => (mark :: sign :: digits, final)
        | none => ([], text)
      else
        match someOf Numeral.isDigit (sign :: rest) with
        | some (digits, final) => (mark :: digits, final)
        | none => ([], text)
    else ([], text)
  | _ => ([], text)

def doubleMagnitude : Scanner := fun text =>
  match text.takeWhile Numeral.isDigit, text.dropWhile Numeral.isDigit with
  | [], _ => none
  | whole, '.' :: rest =>
    let fraction := rest.takeWhile Numeral.isDigit
    let (power, final) := exponent (rest.dropWhile Numeral.isDigit)
    some (whole ++ '.' :: (fraction ++ power), final)
  | _, _ => none

def double : Scanner := signed doubleMagnitude

/-- One character between apostrophes; a backslash takes the next character with it, unless that is
a line feed. -/
def character : Scanner
  | opening :: '\\' :: c :: closing :: rest =>
    if opening = Text.apostrophe ∧ c ≠ '\n' ∧ closing = Text.apostrophe then
      some ([opening, '\\', c, closing], rest)
    else none
  | opening :: c :: closing :: rest =>
    if opening = Text.apostrophe ∧ c ≠ Text.apostrophe ∧ c ≠ '\\' ∧ closing = Text.apostrophe then
      some ([opening, c, closing], rest)
    else none
  | _ => none

def stringTail : Scanner
  | [] => none
  | '\\' :: c :: rest =>
    if c = '\n' then none
    else (stringTail rest).map fun (lexeme, final) => ('\\' :: c :: lexeme, final)
  | c :: rest =>
    if c = Text.quotationMark then some ([c], rest)
    else if c = '\\' then none
    else (stringTail rest).map fun (lexeme, final) => (c :: lexeme, final)

def string : Scanner
  | [] => none
  | c :: rest =>
    if c = Text.quotationMark then
      (stringTail rest).map fun (lexeme, final) => (c :: lexeme, final)
    else none

end Scan

end HeapConsole.Grammar
