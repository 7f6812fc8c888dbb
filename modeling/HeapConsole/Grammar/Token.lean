import HeapConsole.Checked
import HeapConsole.Statement

/-! Tokens of types and literals, and what they mean. A statement is first read with its tokens as
they were written; settling it gives each token its meaning, from left to right, and stops at the
first token that has none. -/
namespace HeapConsole.Grammar

inductive TokenKind where
  | double
  | hexadecimal
  | integer
  | character
  | string
deriving DecidableEq, Repr

/-- A literal as it was written, and how much text remained where it begins. -/
structure Token where
  kind : TokenKind
  lexeme : List Char
  remaining : Nat
deriving DecidableEq, Repr

structure TypeToken where
  keyword : List Char
  starred : Bool
deriving DecidableEq, Repr

/-- A statement whose types and literals are still tokens. -/
abbrev Draft := Statement TypeToken Token

def TypeToken.name (token : TypeToken) : String :=
  String.ofList token.keyword ++ (if token.starred then "*" else "")

/-- Only some of the types that can be written exist. -/
def TypeToken.settle (token : TypeToken) : Except Fault DataType := DataType.ofName token.name

def escaped? (c : Char) : Option Char :=
  if c = 'n' then some '\n'
  else if c = 't' then some '\t'
  else if c = 'r' then some '\r'
  else if c = '0' then some (Char.ofNat 0)
  else if c = '\\' ∨ c = Text.apostrophe ∨ c = Text.quotationMark then some c
  else none

def unescape : List Char → Except Fault (List Char)
  | [] => .ok []
  | ['\\'] => .error (.unknownEscape "")
  | '\\' :: c :: rest =>
    match escaped? c with
    | some d => (unescape rest).map (d :: ·)
    | none => .error (.unknownEscape (String.singleton c))
  | c :: rest => (unescape rest).map (c :: ·)

namespace Token

def body (token : Token) : List Char := (token.lexeme.drop 1).dropLast

def column (token : Token) (length : Nat) : Nat := length - token.remaining

def settleDouble (token : Token) : Literal :=
  let (negative, magnitude) := Numeral.splitSign token.lexeme
  .double (Double.readDecimal negative magnitude)

def settleHexadecimal (token : Token) : Literal :=
  let (negative, magnitude) := Numeral.splitSign token.lexeme
  .int (Numeral.signed negative (Numeral.value 16 (magnitude.drop 2)))

/-- All digits count against the limit, leading zeros too. -/
def settleInteger (length : Nat) (token : Token) : Except Fault Literal :=
  let (negative, digits) := Numeral.splitSign token.lexeme
  if digits.length ≤ Numeral.maxDigits then
    .ok (.int (Numeral.signed negative (Numeral.value 10 digits)))
  else .error (.longInteger token.lexeme.length (token.column length))

def settleCharacter (length : Nat) (token : Token) : Except Fault Literal := do
  match ← unescape token.body with
  | [c] =>
    if c.toNat ≤ 255 then .ok (.char (UInt8.ofNat c.toNat))
    else .error (.wideCharacter (String.ofList token.lexeme) (token.column length))
  -- Unreachable: one character or one escape stands between the apostrophes, and by
  -- `unescape_piece` it comes to one character or to a fault of its own.
  | _ => .error (.wideCharacter (String.ofList token.lexeme) (token.column length))

def settle (length : Nat) (token : Token) : Except Fault Literal :=
  match token.kind with
  | .double => .ok token.settleDouble
  | .hexadecimal => .ok token.settleHexadecimal
  | .integer => token.settleInteger length
  | .character => token.settleCharacter length
  | .string => (unescape token.body).map fun cs => .string (String.ofList cs)

end Token

mutual

def settle (length : Nat) : Draft → Except Fault Node
  | .missing => .ok .missing
  | .typeName type => type.settle.map .typeName
  | .literal token => (token.settle length).map .literal
  | .identifier name => .ok (.identifier name)
  | .declaration name type => type.settle.map (.declaration name)
  | .operator op left right => do
    let l ← settle length left
    let r ← settle length right
    return .operator op l r
  | .cast type operand => do
    let t ← type.settle
    let inner ← settle length operand
    return .cast t inner
  | .parenthesis inner => (settle length inner).map .parenthesis
  | .dereference pointer => (settle length pointer).map .dereference
  | .assignment target value => do
    let left ← settle length target
    let right ← settle length value
    return .assignment left right
  | .call function arguments => (settleAll length arguments).map (.call function)

def settleAll (length : Nat) : List Draft → Except Fault (List Node)
  | [] => .ok []
  | draft :: drafts => do
    let node ← settle length draft
    let nodes ← settleAll length drafts
    return node :: nodes

end

end HeapConsole.Grammar
