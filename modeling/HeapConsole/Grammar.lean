import HeapConsole.Grammar.Rules

/-! From text to nodes, and each rule of the grammar on its own. -/
namespace HeapConsole

namespace Grammar

def columnOf (text : List Char) (remaining : Nat) : Nat := text.length - remaining

/-- The column of the furthest place that a failed attempt reached. -/
def Stops.column (stops : Stops) (text : List Char) : Nat :=
  columnOf text (stops.furthest?.getD text.length)

def conclude (text : String) : Attempt Draft → Except Fault Node
  | ⟨none, stops⟩ => .error (.unparsable text (stops.column text.toList))
  | ⟨some (draft, []), _⟩ => settle text.toList.length draft
  | ⟨some (_, rest), _⟩ =>
    .error (.unexpectedInput (String.ofList rest) (columnOf text.toList rest.length))

def parse (text : String) : Except Fault Node := conclude text (statement text.toList)

inductive Rule where
  | statement | statementBody | declaration | assignment | assignTarget | derefTarget
  | expression | term | unary | dereference | cast | primary | group
  | call | arguments | argument | typeArgument | addOperator | mulOperator
  | typeName | typeKeyword | identifier
  | literal | doubleLiteral | hexLiteral | intLiteral | charLiteral | stringLiteral
  | blanks
deriving DecidableEq, Repr

namespace Rule

def all : List Rule :=
  [.statement, .statementBody, .declaration, .assignment, .assignTarget, .derefTarget,
    .expression, .term, .unary, .dereference, .cast, .primary, .group, .call, .arguments,
    .argument, .typeArgument, .addOperator, .mulOperator, .typeName, .typeKeyword, .identifier,
    .literal, .doubleLiteral, .hexLiteral, .intLiteral, .charLiteral, .stringLiteral, .blanks]

def name : Rule → String
  | .statement => "statement"
  | .statementBody => "statement_body"
  | .declaration => "declaration"
  | .assignment => "assignment"
  | .assignTarget => "assign_target"
  | .derefTarget => "deref_target"
  | .expression => "expression"
  | .term => "term"
  | .unary => "unary"
  | .dereference => "dereference"
  | .cast => "cast"
  | .primary => "primary"
  | .group => "group"
  | .call => "call"
  | .arguments => "arguments"
  | .argument => "argument"
  | .typeArgument => "type_argument"
  | .addOperator => "add_op"
  | .mulOperator => "mul_op"
  | .typeName => "type_name"
  | .typeKeyword => "type_keyword"
  | .identifier => "identifier"
  | .literal => "literal"
  | .doubleLiteral => "double_lit"
  | .hexLiteral => "hex_lit"
  | .intLiteral => "int_lit"
  | .charLiteral => "char_lit"
  | .stringLiteral => "string_lit"
  | .blanks => "_"

def ofName? (name : String) : Option Rule := all.find? (·.name == name)

def parser : Rule → Parser Unit
  | .statement => discard Grammar.statement
  | .statementBody => discard Grammar.statementBody
  | .declaration => discard Grammar.declaration
  | .assignment => discard Grammar.assignment
  | .assignTarget => discard Grammar.assignTarget
  | .derefTarget => discard (dereferenceWith Grammar.unary)
  | .expression => discard Grammar.expression
  | .term => discard (termWith Grammar.unary)
  | .unary => discard Grammar.unary
  | .dereference => discard (dereferenceWith Grammar.unary)
  | .cast => discard (castWith Grammar.unary)
  | .primary => discard (primaryWith Grammar.unary)
  | .group => discard (groupWith Grammar.unary)
  | .call => discard (callWith Grammar.unary)
  | .arguments => discard (argumentsWith Grammar.unary)
  | .argument => discard (argumentWith Grammar.unary)
  | .typeArgument => discard Grammar.typeArgument
  | .addOperator => discard Grammar.addOperator
  | .mulOperator => discard Grammar.mulOperator
  | .typeName => discard Grammar.typeName
  | .typeKeyword => discard Grammar.typeKeyword
  | .identifier => discard Grammar.identifier
  | .literal => discard Grammar.literal
  | .doubleLiteral => discard Grammar.doubleLiteral
  | .hexLiteral => discard Grammar.hexLiteral
  | .intLiteral => discard Grammar.intLiteral
  | .charLiteral => discard Grammar.charLiteral
  | .stringLiteral => discard Grammar.stringLiteral
  | .blanks => Parser.blanks

inductive Match where
  | complete (length : Nat)
  | incomplete (column : Nat)
  | failed (column : Nat)
deriving DecidableEq, Repr

def run (rule : Rule) (text : String) : Match :=
  let cs := text.toList
  match rule.parser cs with
  | ⟨none, stops⟩ => .failed (stops.column cs)
  | ⟨some (_, []), _⟩ => .complete cs.length
  | ⟨some (_, rest), _⟩ => .incomplete (columnOf cs rest.length)

end Rule

end Grammar

end HeapConsole
