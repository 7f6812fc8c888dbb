/-! White space of statements and of console lines, and the line breaks of a session file. -/
namespace HeapConsole.Text

def isBlank (c : Char) : Bool :=
  let n := c.toNat
  (9 ≤ n && n ≤ 13) || n == 0x20 || n == 0x85 || n == 0xa0 || n == 0x1680 ||
    (0x2000 ≤ n && n ≤ 0x200a) || n == 0x2028 || n == 0x2029 || n == 0x202f || n == 0x205f ||
    n == 0x3000

/-- Characters trimmed from the ends of a line: the blanks and the four information separators. -/
def isMargin (c : Char) : Bool := isBlank c || (0x1c ≤ c.toNat && c.toNat ≤ 0x1f)

def skipBlanks (cs : List Char) : List Char := cs.dropWhile isBlank

def trimBlanks (cs : List Char) : List Char :=
  ((skipBlanks cs).reverse.dropWhile isBlank).reverse

def dropMarginRight (cs : List Char) : List Char := (cs.reverse.dropWhile isMargin).reverse

def strip (text : String) : String :=
  String.ofList (dropMarginRight (text.toList.dropWhile isMargin))

def isBreak (c : Char) : Bool :=
  let n := c.toNat
  (0xa ≤ n && n ≤ 0xd) || (0x1c ≤ n && n ≤ 0x1e) || n == 0x85 || n == 0x2028 || n == 0x2029

def unifyNewlines : List Char → List Char
  | [] => []
  | '\r' :: '\n' :: rest => '\n' :: unifyNewlines rest
  | c :: rest => (if c = '\r' then '\n' else c) :: unifyNewlines rest

/-- Cuts at each character that satisfies `ends`; a last piece counts only if it is not empty. -/
def cut (ends : Char → Bool) : List Char → List (List Char)
  | [] => []
  | c :: rest =>
    if ends c then [] :: cut ends rest
    else match cut ends rest with
      | [] => [[c]]
      | line :: lines => (c :: line) :: lines

def splitLines (text : String) : List String :=
  (cut isBreak (unifyNewlines text.toList)).map String.ofList

/-- The lines of standard input, which end at line feeds only. -/
def inputLines (text : String) : List String := (cut (· == '\n') text.toList).map String.ofList

end HeapConsole.Text
