import HeapConsole.Error.Code
import HeapConsole.Operator
import HeapConsole.Text.Blank
import HeapConsole.Value

/-! Everything that can go wrong with a statement, as causes. The class, the code, the wording and
the column of a cause are four separate tables. -/
namespace HeapConsole

inductive CoercionReason where
  | unsupported
  | noIntegerValue (value : Double)
  | tooLarge
  | characterCount (count : Nat)
  | wideCharacter (code : Nat)
deriving DecidableEq, Repr

inductive Side where
  | left
  | right
deriving DecidableEq, Repr

inductive Fault where
  | unexpectedInput (rest : String) (column : Nat)
  | unparsable (text : String) (column : Nat)
  | unknownType (name : String)
  | unknownEscape (escaped : String)
  | longInteger (length column : Nat)
  | wideCharacter (token : String) (column : Nat)
  | arity (function : String) (expected given : Nat)
  | typeExpected (index : Nat)
  | valueExpected (index : Nat)
  | argumentType (function : String) (index : Nat) (expected given : DataType)
  | notCallable (name : String)
  | voidDeclaration
  | nativeDereference
  | nonPointerDereference (type : DataType)
  | undefined (name : String)
  | coercion (source target : DataType) (reason : CoercionReason)
  | operandKinds (operator : Operator) (left right : Kind)
  | stringSubtraction
  | divisionByZero
  | voidOperand (side : Side) (operator : Operator)
  | nativeOperand (side : Side)
  | voidCast (target : DataType)
  | voidAssignment
  | voidDereference
  | addressRange (address : Int) (size : Nat)
  | allocationSize (size : Int)
  | outOfMemory (size reserved capacity : Int)
  | typePassed (function : String)
  | displayBase (base : Int)
  | sizeofArity (given : Nat)
  | sizeofType (type : DataType)
  | literalPayload (kind : Kind) (payload : Payload)
  | functionRequired (content : Content)
  | unstorableType (type : DataType)
  | contentMismatch (type : DataType) (content : Content)
  | literalRequired (function : String)
  | domainKinds (domain left right : Kind)
  | unexpectedOperator (symbol : String)
  | byteRange (byte : Int)
  | pointerType (type : DataType)
  | intRequired (index : Nat) (given : DataType)
  | typeRequired
  | unexpectedNode (node : String)
  | unexpectedTarget (node : String)
deriving DecidableEq, Repr

def Side.name : Side → String
  | .left => "left"
  | .right => "right"

def Side.title : Side → String
  | .left => "Left"
  | .right => "Right"

def CoercionReason.sentence : CoercionReason → String
  | .unsupported => ""
  | .noIntegerValue value => " " ++ value.text ++ " has no integer value."
  | .tooLarge => " The value is too large for a double."
  | .characterCount count => " Expected exactly 1 character, got " ++ toString count ++ "."
  | .wideCharacter code =>
    " Character code " ++ toString code ++ " does not fit in a byte."

namespace Fault

def errorClass : Fault → ErrorClass
  | .unexpectedInput .. | .unparsable .. | .unknownType .. | .unknownEscape .. | .longInteger ..
  | .wideCharacter .. => .syntactic
  | .arity .. | .typeExpected .. | .valueExpected .. | .argumentType .. | .notCallable ..
  | .voidDeclaration | .nativeDereference | .nonPointerDereference .. => .typing
  | .undefined .. | .coercion .. | .operandKinds .. | .stringSubtraction | .divisionByZero
  | .voidOperand .. | .nativeOperand .. | .voidCast .. | .voidAssignment | .voidDereference
  | .addressRange .. | .allocationSize .. | .outOfMemory .. | .typePassed .. | .displayBase ..
  | .sizeofArity .. | .sizeofType .. => .runtime
  | .literalPayload .. | .functionRequired .. | .unstorableType .. | .contentMismatch ..
  | .literalRequired .. | .domainKinds .. | .unexpectedOperator .. | .byteRange ..
  | .pointerType .. | .intRequired .. | .typeRequired | .unexpectedNode ..
  | .unexpectedTarget .. => .internal

def code : Fault → Code
  | .unexpectedInput .. | .unparsable .. => .invalidSyntax
  | .unknownType .. => .unknownType
  | .unknownEscape .. | .longInteger .. | .wideCharacter .. => .invalidLiteral
  | .arity .. => .arityMismatch
  | .typeExpected .. | .valueExpected .. | .argumentType .. => .argumentMismatch
  | .notCallable .. => .notCallable
  | .voidDeclaration => .voidDeclaration
  | .nativeDereference | .nonPointerDereference .. => .notAPointer
  | .undefined .. => .undefinedIdentifier
  | .coercion .. => .invalidCoercion
  | .operandKinds .. | .stringSubtraction | .nativeOperand .. => .invalidOperands
  | .divisionByZero => .divisionByZero
  | .voidOperand .. | .voidCast .. | .voidAssignment | .voidDereference => .voidValue
  | .addressRange .. => .addressOutOfRange
  | .outOfMemory .. => .outOfMemory
  | .allocationSize .. | .typePassed .. | .displayBase .. | .sizeofArity ..
  | .sizeofType .. => .invalidArgument
  | .literalPayload .. | .functionRequired .. | .unstorableType .. | .contentMismatch ..
  | .literalRequired .. | .domainKinds .. | .byteRange .. | .pointerType .. | .intRequired ..
  | .typeRequired => .invariantViolated
  | .unexpectedOperator .. | .unexpectedNode .. | .unexpectedTarget .. => .unexpectedNode

def message : Fault → String
  | .unexpectedInput rest column =>
    "Unexpected input at column " ++ toString (column + 1) ++ ": " ++ Text.quote rest
  | .unparsable text column =>
    "Could not parse " ++ Text.quote (Text.strip text) ++ " (stopped at column " ++
      toString (column + 1) ++ ")."
  | .unknownType name => "Unknown type " ++ name ++ "."
  | .unknownEscape escaped => "Unknown escape sequence \\" ++ escaped ++ "."
  | .longInteger length _ =>
    "Integer literal of " ++ toString length ++ " characters is too long."
  | .wideCharacter token _ => "Character " ++ token ++ " does not fit in a byte."
  | .arity function expected given =>
    "Expected " ++ toString expected ++ " argument" ++ (if expected = 1 then "" else "s") ++
      " for function " ++ function ++ ", but got " ++ toString given ++ "."
  | .typeExpected index =>
    "Expected argument " ++ toString index ++ " to be of type type, but got a runtime value."
  | .valueExpected index =>
    "Expected argument " ++ toString index ++ " to be a runtime value, but got a type."
  | .argumentType function index expected given =>
    function ++ ": Expected argument " ++ toString index ++ " to be of type " ++ expected.name ++
      ", but got " ++ given.name ++ "."
  | .notCallable name => "Identifier " ++ name ++ " is not a function."
  | .voidDeclaration => "Cannot declare variable of type \"void\"."
  | .nativeDereference => "Cannot dereference native function."
  | .nonPointerDereference type => "Cannot dereference non-pointer type " ++ type.name ++ "."
  | .undefined name => "Identifier " ++ name ++ " is not defined."
  | .coercion source target reason =>
    "Cannot coerce " ++ source.name ++ " to " ++ target.name ++ "." ++ reason.sentence
  | .operandKinds operator left right =>
    "operator" ++ operator.symbol ++ ": Cannot coerce " ++ left.name ++ " and " ++ right.name ++
      " to the same type."
  | .stringSubtraction => "operator-: Invalid type string for operator -"
  | .divisionByZero => "operator/: Division by zero."
  | .voidOperand side operator =>
    side.title ++ "-hand side of operator " ++ operator.symbol ++ " is void."
  | .nativeOperand side =>
    "Expected " ++ side.name ++ " value to be of type \"literal\", but got nativeFunction."
  | .voidCast target => "Type \"void\" cannot be cast to " ++ target.name ++ "."
  | .voidAssignment => "Cannot assign void to variable."
  | .voidDereference => "Cannot dereference void value."
  | .addressRange address size =>
    "Address " ++ Numeral.decimal address ++ " is outside of the addressable memory range [0, " ++
      toString size ++ ")."
  | .allocationSize size =>
    "malloc: Cannot allocate " ++ Numeral.decimal size ++ " bytes; size must be positive."
  | .outOfMemory size reserved capacity =>
    "malloc: Out of memory; no free region of " ++ Numeral.decimal size ++ " bytes (" ++
      Numeral.decimal reserved ++ " of " ++ Numeral.decimal capacity ++ " bytes reserved)."
  | .typePassed function => "Cannot call " ++ function ++ " with a type"
  | .displayBase base => "Invalid base " ++ Numeral.decimal base ++ ". Must be 10 or 16."
  | .sizeofArity given => "Expected 1 argument for sizeof, but got " ++ toString given ++ "."
  | .sizeofType type => "Cannot call sizeof on type \"" ++ type.name ++ "\"."
  | .literalPayload kind payload =>
    "Literal of kind " ++ kind.name ++ " cannot hold " ++ payload.text ++ "."
  | .functionRequired content =>
    "Type nativeFunction requires a function definition, got " ++ content.describe ++ "."
  | .unstorableType type => "Type " ++ type.name ++ " cannot be stored in a runtime value."
  | .contentMismatch type content =>
    "Type " ++ type.name ++ " does not match payload " ++ content.describe ++ "."
  | .literalRequired function =>
    "Expected a literal value, got native function " ++ function ++ "."
  | .domainKinds domain left right =>
    "Unexpected literal kinds " ++ left.name ++ " and " ++ right.name ++ " for " ++ domain.name ++
      " arithmetic."
  | .unexpectedOperator symbol => "Unexpected operator " ++ symbol ++ "."
  | .byteRange byte => "Byte value " ++ Numeral.decimal byte ++ " out of range 0-255."
  | .pointerType type => "Unexpected pointer type " ++ type.name ++ "."
  | .intRequired index given =>
    "Expected argument " ++ toString index ++ " to be of type int, but got " ++ given.name ++ "."
  | .typeRequired => "Expected argument 0 to be of type \"type\", but got a runtime value."
  | .unexpectedNode node => "Unexpected statement node type " ++ node ++ "."
  | .unexpectedTarget node => "Unexpected assignment left-hand side node type " ++ node ++ "."

def column : Fault → Option Nat
  | .unexpectedInput _ column | .unparsable _ column | .longInteger _ column
  | .wideCharacter _ column => some column
  | _ => none

/-- The integers that the message writes in full. -/
def integers : Fault → List Int
  | .addressRange address _ => [address]
  | .allocationSize size => [size]
  | .outOfMemory size reserved capacity => [size, reserved, capacity]
  | .displayBase base => [base]
  | .literalPayload _ payload => payload.integer?.toList
  | .functionRequired content | .contentMismatch _ content => content.integer?.toList
  | .byteRange byte => [byte]
  | _ => []

def report (fault : Fault) : Report :=
  ⟨fault.code, fault.message, fault.column.map fun column => (column : Int)⟩

def line (fault : Fault) : String := fault.report.line

end Fault

/-- How an evaluation fails: by a fault, or because an integer is too long to be written. -/
inductive Failure where
  | fault (fault : Fault)
  | digitLimit
deriving DecidableEq, Repr

namespace Failure

/-- A fault whose message would write an integer beyond the digit limit cannot be reported. -/
def of (fault : Fault) : Failure :=
  if ∀ n ∈ fault.integers, Numeral.Writable n then .fault fault else .digitLimit

def guard {α : Type} (integers : List Int) (answer : α) : Except Failure α :=
  if ∀ n ∈ integers, Numeral.Writable n then .ok answer else .error .digitLimit

end Failure

end HeapConsole
