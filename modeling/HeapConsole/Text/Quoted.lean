import HeapConsole.Numeral
import HeapConsole.Text.Printable

/-! Quoted text: a text between two equal marks, with escapes for the mark, the backslash and
every character that cannot be shown. -/
namespace HeapConsole.Text

def apostrophe : Char := '\x27'

def quotationMark : Char := '\x22'

/-- The apostrophe, unless the text has apostrophes and no quotation mark. -/
def quoteMark (cs : List Char) : Char :=
  if cs.contains apostrophe && !cs.contains quotationMark then quotationMark else apostrophe

def hexDigits (width n : Nat) : List Char := Numeral.padLeft width '0' (Nat.toDigits 16 n)

def hiddenEscape (c : Char) : List Char :=
  let n := c.toNat
  if n < 0x100 then '\\' :: 'x' :: hexDigits 2 n
  else if n < 0x10000 then '\\' :: 'u' :: hexDigits 4 n
  else '\\' :: 'U' :: hexDigits 8 n

def escapeChar (mark c : Char) : List Char :=
  if c = '\\' ∨ c = mark then ['\\', c]
  else if c = '\n' then ['\\', 'n']
  else if c = '\r' then ['\\', 'r']
  else if c = '\t' then ['\\', 't']
  else if isPrintable c then [c]
  else hiddenEscape c

def quoteChars (cs : List Char) : List Char :=
  let mark := quoteMark cs
  mark :: cs.flatMap (escapeChar mark) ++ [mark]

def quote (text : String) : String := String.ofList (quoteChars text.toList)

end HeapConsole.Text
