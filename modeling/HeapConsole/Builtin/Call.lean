import HeapConsole.Machine

/-! What the native functions do. -/
namespace HeapConsole

inductive Argument where
  | type (type : DataType)
  | result (result : Result)
deriving DecidableEq, Repr

namespace Argument

/-- The argument that a result becomes; a void one is left out. -/
def ofResult : Result → List Argument
  | .void => []
  | .value v => [.result (.value v)]

def isType : Argument → Bool
  | .type _ => true
  | .result _ => false

def integer? : Argument → Option Int
  | .type _ => none
  | .result given => given.integer?

end Argument

def DataType.size? : DataType → Option Nat
  | .int => some 4
  | .char | .double | .pointer _ | .nativeFunction => some 1
  | .void | .string => none

namespace Builtin

def intArgument (builtin : Builtin) : List Argument → Except Fault Int
  -- Unreachable: a call counts its arguments before the function runs, and there has to be one.
  | [] => .error (.arity builtin.name 1 0)
  | .type _ :: _ => .error (.typePassed builtin.name)
  | .result (.value (.int n)) :: _ => .ok n
  | .result result :: _ => .error (.intRequired 0 result.type)

def runMalloc (arguments : List Argument) : Evaluation Result :=
  if arguments.any Argument.isType then Evaluation.fail (.typePassed Builtin.malloc.name)
  else do
    let size ← Evaluation.lift (Builtin.malloc.intArgument arguments)
    let machine ← get
    let (address, memory) ← Evaluation.lift (machine.memory.malloc size)
    set { machine with memory := memory }
    return .value (.int address)

def runSetDisplayBase (arguments : List Argument) : Evaluation Result := do
  let number ← Evaluation.lift (Builtin.setDisplayBase.intArgument arguments)
  match Base.ofNumber? number with
  | some base =>
    modify fun machine => { machine with displayBase := base.number }
    return .void
  | none => Evaluation.fail (.displayBase number)

def runSizeof (arguments : List Argument) : Evaluation Result :=
  match arguments with
  | [.type type] =>
    match type.size? with
    | some size => return .value (.int size)
    | none => Evaluation.fail (.sizeofType type)
  | [.result _] => Evaluation.fail .typeRequired
  | arguments => Evaluation.fail (.sizeofArity arguments.length)

def run (builtin : Builtin) (arguments : List Argument) : Evaluation Result :=
  match builtin with
  | .malloc => runMalloc arguments
  | .clear => do
    modify Machine.clearHistory
    return .void
  | .setDisplayBase => runSetDisplayBase arguments
  | .sizeof => runSizeof arguments
  | .reset => do
    modify fun machine => { machine with memory := machine.memory.reset }
    return .void

/-- A call first describes its arguments, which fails at an integer beyond the digit limit. -/
def invoke (builtin : Builtin) (arguments : List Argument) : Evaluation Result :=
  if ∀ n ∈ arguments.filterMap Argument.integer?, Numeral.Writable n then builtin.run arguments
  else throw .digitLimit

end Builtin

end HeapConsole
