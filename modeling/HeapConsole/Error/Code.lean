import HeapConsole.Json

/-! Error codes: each has a number, a category and a kind, and the kind heads the shown message. -/
namespace HeapConsole

inductive ErrorKind where
  | syntactic
  | typing
  | runtime
  | internal
deriving DecidableEq, Repr

def ErrorKind.heading : ErrorKind → String
  | .syntactic => "Syntax error"
  | .typing => "Type error"
  | .runtime => "Runtime error"
  | .internal => "Internal error"

inductive Code where
  | invalidSyntax
  | unknownType
  | invalidLiteral
  | arityMismatch
  | argumentMismatch
  | notCallable
  | voidDeclaration
  | notAPointer
  | runtimeError
  | undefinedIdentifier
  | invalidCoercion
  | invalidOperands
  | divisionByZero
  | voidValue
  | addressOutOfRange
  | outOfMemory
  | invalidArgument
  | internalError
  | invariantViolated
  | unexpectedNode
deriving DecidableEq, Repr

namespace Code

def all : List Code :=
  [.invalidSyntax, .unknownType, .invalidLiteral, .arityMismatch, .argumentMismatch, .notCallable,
    .voidDeclaration, .notAPointer, .runtimeError, .undefinedIdentifier, .invalidCoercion,
    .invalidOperands, .divisionByZero, .voidValue, .addressOutOfRange, .outOfMemory,
    .invalidArgument, .internalError, .invariantViolated, .unexpectedNode]

def number : Code → Nat
  | .invalidSyntax => 1000
  | .unknownType => 1001
  | .invalidLiteral => 1002
  | .arityMismatch => 2000
  | .argumentMismatch => 2001
  | .notCallable => 2002
  | .voidDeclaration => 2003
  | .notAPointer => 2004
  | .runtimeError => 5000
  | .undefinedIdentifier => 5001
  | .invalidCoercion => 5002
  | .invalidOperands => 5003
  | .divisionByZero => 5004
  | .voidValue => 5005
  | .addressOutOfRange => 5006
  | .outOfMemory => 5007
  | .invalidArgument => 5008
  | .internalError => 9000
  | .invariantViolated => 9001
  | .unexpectedNode => 9002

def kind : Code → ErrorKind
  | .invalidSyntax | .unknownType | .invalidLiteral => .syntactic
  | .arityMismatch | .argumentMismatch | .notCallable | .voidDeclaration | .notAPointer => .typing
  | .runtimeError | .undefinedIdentifier | .invalidCoercion | .invalidOperands | .divisionByZero
  | .voidValue | .addressOutOfRange | .outOfMemory | .invalidArgument => .runtime
  | .internalError | .invariantViolated | .unexpectedNode => .internal

def constant : Code → String
  | .invalidSyntax => "INVALID_SYNTAX"
  | .unknownType => "UNKNOWN_TYPE"
  | .invalidLiteral => "INVALID_LITERAL"
  | .arityMismatch => "ARITY_MISMATCH"
  | .argumentMismatch => "ARGUMENT_MISMATCH"
  | .notCallable => "NOT_CALLABLE"
  | .voidDeclaration => "VOID_DECLARATION"
  | .notAPointer => "NOT_A_POINTER"
  | .runtimeError => "RUNTIME_ERROR"
  | .undefinedIdentifier => "UNDEFINED_IDENTIFIER"
  | .invalidCoercion => "INVALID_COERCION"
  | .invalidOperands => "INVALID_OPERANDS"
  | .divisionByZero => "DIVISION_BY_ZERO"
  | .voidValue => "VOID_VALUE"
  | .addressOutOfRange => "ADDRESS_OUT_OF_RANGE"
  | .outOfMemory => "OUT_OF_MEMORY"
  | .invalidArgument => "INVALID_ARGUMENT"
  | .internalError => "INTERNAL_ERROR"
  | .invariantViolated => "INVARIANT_VIOLATED"
  | .unexpectedNode => "UNEXPECTED_NODE"

/-- The category; several codes may share one. -/
def category : Code → String
  | .voidDeclaration => "INVALID_DECLARATION"
  | .runtimeError => "EXECUTION_ERROR"
  | .undefinedIdentifier => "UNDEFINED_SYMBOL"
  | .addressOutOfRange | .outOfMemory => "MEMORY_ERROR"
  | .invariantViolated | .unexpectedNode => "INVARIANT_BROKEN"
  | code => code.constant

def ofConstant? (constant : String) : Option Code := all.find? (·.constant == constant)

def text (code : Code) : String := "CMEM-" ++ toString code.number

def describe (code : Code) : String :=
  "ErrorCode(" ++ Text.quote code.text ++ ", " ++ code.category ++ ")"

end Code

inductive ErrorClass where
  | general
  | syntactic
  | typing
  | runtime
  | internal
deriving DecidableEq, Repr

/-- The code of an error that names none. -/
def ErrorClass.defaultCode : ErrorClass → Code
  | .general => .internalError
  | .syntactic => .invalidSyntax
  | .typing => .argumentMismatch
  | .runtime => .runtimeError
  | .internal => .internalError

structure Report where
  code : Code
  message : String
  column : Option Int
deriving DecidableEq, Repr

namespace Report

def line (report : Report) : String := report.code.kind.heading ++ ": " ++ report.message

def toJson (report : Report) : Json :=
  .object [
    ("code", .string report.code.text),
    ("kind", .string report.code.kind.heading),
    ("category", .string report.code.category),
    ("message", .string report.message),
    ("column", (report.column.map Json.int).getD .null)]

end Report

end HeapConsole
