import HeapConsole.Grammar.Parser
import HeapConsole.Grammar.Scan
import HeapConsole.Grammar.Token

/-! The rules of the statement grammar. Rules that can contain a nested unary take its parser as an
argument, and `unary` ties the knot: each nested unary begins behind at least one character. Texts
may nest as deep as they like, since how deep a host can recurse is not modelled. -/
namespace HeapConsole.Grammar

open HeapConsole.Grammar.Parser

def typeKeyword : Parser (List Char) := rule (token Scan.typeKeyword)

def typeName : Parser TypeToken := rule do
  let keyword ← typeKeyword
  let star ← optional do
    blanks
    char '*'
  return ⟨keyword, star.isSome⟩

def identifier : Parser String := rule do
  notAhead typeKeyword
  let lexeme ← token Scan.name
  return String.ofList lexeme

def literalOf (kind : TokenKind) (scan : Scanner) : Parser Token := rule do
  let remaining ← remaining
  let lexeme ← token scan
  return ⟨kind, lexeme, remaining⟩

def doubleLiteral : Parser Token := literalOf .double Scan.double

def hexLiteral : Parser Token := literalOf .hexadecimal Scan.hexadecimal

def intLiteral : Parser Token := literalOf .integer Scan.integer

def charLiteral : Parser Token := literalOf .character Scan.character

def stringLiteral : Parser Token := literalOf .string Scan.string

def literal : Parser Token :=
  rule (doubleLiteral <|> hexLiteral <|> intLiteral <|> charLiteral <|> stringLiteral)

def addOperator : Parser Operator := rule do
  let lexeme ← token (Scan.oneOf fun c => c == '+' || c == '-')
  return if lexeme = ['+'] then .add else .sub

def mulOperator : Parser Operator := rule do
  let lexeme ← token (Scan.oneOf fun c => c == '*' || c == '/')
  return if lexeme = ['*'] then .mul else .div

def link (operand : Parser Draft) (operator : Parser Operator) : Parser (Operator × Draft) := do
  blanks
  let op ← operator
  blanks
  let right ← operand
  return (op, right)

def chain (operand : Parser Draft) (operator : Parser Operator) : Parser Draft := do
  let head ← operand
  let tail ← many (link operand operator)
  return tail.foldl (fun left (op, right) => .operator op left right) head

section nested

variable (unary : Parser Draft)

def termWith : Parser Draft := rule (chain unary mulOperator)

def expressionWith : Parser Draft := rule (chain (termWith unary) addOperator)

def dereferenceWith : Parser Draft := rule do
  char '*'
  blanks
  let pointer ← unary
  return .dereference pointer

def castWith : Parser Draft := rule do
  char '('
  blanks
  let type ← typeName
  blanks
  char ')'
  blanks
  let operand ← unary
  return .cast type operand

def groupWith : Parser Draft := rule do
  char '('
  blanks
  let inner ← expressionWith unary
  blanks
  char ')'
  return .parenthesis inner

/-- A type counts as an argument only if the argument ends behind it. -/
def typeArgument : Parser Draft := rule do
  let type ← typeName
  ahead do
    blanks
    char ')' <|> char ','
  return .typeName type

def argumentWith : Parser Draft := rule (typeArgument <|> expressionWith unary)

def anotherWith : Parser Draft := do
  blanks
  char ','
  blanks
  argumentWith unary

def argumentsWith : Parser (List Draft) := rule do
  let head ← argumentWith unary
  let tail ← many (anotherWith unary)
  return head :: tail

def callWith : Parser Draft := rule do
  let function ← identifier
  blanks
  char '('
  blanks
  let arguments ← optional (argumentsWith unary)
  blanks
  char ')'
  return .call function (arguments.getD [])

def primaryWith : Parser Draft :=
  rule (callWith unary <|> (Statement.literal <$> literal) <|> groupWith unary <|>
    (Statement.identifier <$> identifier))

def unaryWith : Parser Draft :=
  rule (dereferenceWith unary <|> castWith unary <|> primaryWith unary)

end nested

def unaryAt : Nat → Parser Draft
  | 0 => fail
  | depth + 1 => unaryWith (unaryAt depth)

/-- Nesting is never deeper than the text is long. -/
def unary : Parser Draft := fun text => unaryAt (text.length + 1) text

def expression : Parser Draft := expressionWith unary

def declaration : Parser Draft := rule do
  let type ← typeName
  blanks
  let name ← identifier
  return .declaration name type

def assignTarget : Parser Draft :=
  rule (declaration <|> dereferenceWith unary <|> (Statement.identifier <$> identifier))

def assignment : Parser Draft := rule do
  let target ← assignTarget
  blanks
  char '='
  blanks
  let value ← expression
  return .assignment target value

def statementBody : Parser Draft := rule (assignment <|> declaration <|> expression)

def statement : Parser Draft := rule do
  blanks
  let body ← statementBody
  blanks
  let _ ← optional (char ';')
  blanks
  return body

end HeapConsole.Grammar
