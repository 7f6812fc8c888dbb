import HeapConsole.Arithmetic
import HeapConsole.Builtin.Call
import HeapConsole.Statement

/-! Evaluation of nodes on a machine. Operands and arguments run from left to right, the address of
a store is resolved and checked before its right side runs, and a declaration takes effect before
the value assigned to it is computed. Trees of any depth are evaluated: how deep a host can recurse
is not modelled. -/
namespace HeapConsole

namespace Evaluation

def lookup (name : String) : Evaluation Value := do
  match (← get).scope.find? name with
  | some value => return value
  | none => fail (.undefined name)

def require (fault : Fault) : Result → Evaluation Value
  | .void => fail fault
  | .value v => return v

def operand (side : Side) (value : Value) : Evaluation Literal :=
  match value.literal? with
  | some literal => return literal
  | none => fail (.nativeOperand side)

def operate (operator : Operator) (left right : Result) : Evaluation Result := do
  let leftValue ← require (.voidOperand .left operator) left
  let rightValue ← require (.voidOperand .right operator) right
  let leftLiteral ← operand .left leftValue
  let rightLiteral ← operand .right rightValue
  let literal ← lift (Operator.applySymbol operator.symbol leftLiteral rightLiteral)
  return .value (.ofLiteral literal)

def cast (type : DataType) (result : Result) : Evaluation Result := do
  let value ← require (.voidCast type) result
  return .value (← lift (value.coerce type))

/-- The value of a variable of the given type that nothing has been assigned to. -/
def blank (type : DataType) : Except Fault Value :=
  match type with
  | .void => .error .voidDeclaration
  | .string => .ok (.string "")
  | type => (Value.int 0).coerce type

def declare (name : String) (type : DataType) : Evaluation Unit := do
  let value ← lift (blank type)
  modify fun machine => machine.bind name value

/-- Coerces a value to the type that the name has by now, and binds it. -/
def assign (name : String) (value : Value) : Evaluation Result := do
  let old ← lookup name
  let stored ← lift (value.coerce old.type)
  modify fun machine => machine.bind name stored
  return .value stored

def resolve (pointer : Result) : Evaluation (Pointee × Int) := do
  match ← require .voidDereference pointer with
  | .pointer pointee address =>
    let _ ← lift ((← get).memory.heap.index address)
    return (pointee, address)
  | .native _ => fail .nativeDereference
  | value => fail (.nonPointerDereference value.type)

def load (pointer : Result) : Evaluation Result := do
  let (pointee, address) ← resolve pointer
  return .value (← lift ((← get).memory.load address (.pointer pointee)))

def store (address : Int) (value : Value) : Evaluation Result := do
  let machine ← get
  let (n, memory) ← lift (machine.memory.store address value)
  set { machine with memory := memory }
  return .value (.int n)

def callee (name : String) : Evaluation Builtin := do
  match ← lookup name with
  | .native builtin => return builtin
  | _ => fail (.notCallable name)

/-- An argument agrees with its parameter: a type where the parameter has none, and otherwise a
value of exactly the parameter's type. -/
def checkArgument (function : String) (index : Nat) (parameter : Parameter) (argument : Argument) :
    Except Fault Unit :=
  match parameter.type, argument with
  | none, .type _ => .ok ()
  | none, .result _ => .error (.typeExpected index)
  | some _, .type _ => .error (.valueExpected index)
  | some expected, .result result =>
    if result.type = expected then .ok ()
    else .error (.argumentType function index expected result.type)

def checkArguments (function : String) (index : Nat) :
    List Parameter → List Argument → Except Fault Unit
  | parameter :: parameters, argument :: arguments => do
    checkArgument function index parameter argument
    checkArguments function (index + 1) parameters arguments
  | _, _ => .ok ()

def call (function : String) (builtin : Builtin) (arguments : List Argument) :
    Evaluation Result :=
  if arguments.length ≠ builtin.arity then
    fail (.arity function builtin.arity arguments.length)
  else do
    lift (checkArguments function 0 builtin.signature.parameters arguments)
    builtin.invoke arguments

end Evaluation

namespace Statement

open Evaluation

mutual

def evaluate : Node → Evaluation Result
  | .literal value => return .value (.ofLiteral value)
  | .identifier name => return .value (← lookup name)
  | .declaration name type => do
    declare name type
    return .void
  | .operator op left right => do
    let leftResult ← left.evaluate
    let rightResult ← right.evaluate
    operate op leftResult rightResult
  | .cast type operand => do
    let result ← operand.evaluate
    Evaluation.cast type result
  | .parenthesis inner => inner.evaluate
  | .dereference pointer => do
    let result ← pointer.evaluate
    load result
  | .assignment (.dereference pointer) value => do
    let pointerResult ← pointer.evaluate
    let (_, address) ← resolve pointerResult
    let result ← value.evaluate
    store address (← require .voidAssignment result)
  | .assignment (.declaration name type) value => do
    declare name type
    let result ← value.evaluate
    assign name (← require .voidAssignment result)
  | .assignment (.identifier name) value => do
    let result ← value.evaluate
    assign name (← require .voidAssignment result)
  | .assignment target _ => fail (.unexpectedTarget target.nodeName)
  | .call function arguments => do
    let builtin ← callee function
    let evaluated ← evaluateArguments arguments
    Evaluation.call function builtin evaluated
  | .typeName type => fail (.unexpectedNode (nodeName (.typeName type : Node)))
  | .missing => fail (.unexpectedNode (nodeName (.missing : Node)))

/-- Types stand for themselves. -/
def evaluateArguments : List Node → Evaluation (List Argument)
  | [] => return []
  | .typeName type :: rest => return .type type :: (← evaluateArguments rest)
  | argument :: rest => do
    let result ← argument.evaluate
    let others ← evaluateArguments rest
    return Argument.ofResult result ++ others

end

end Statement

end HeapConsole
