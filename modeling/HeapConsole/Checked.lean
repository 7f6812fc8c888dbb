import HeapConsole.Error.Fault

/-! Types, literals and values made from parts that have not been checked. -/
namespace HeapConsole

def DataType.ofName (name : String) : Except Fault DataType :=
  match ofName? name with
  | some type => .ok type
  | none => .error (.unknownType name)

def Literal.ofPayload (kind : Kind) (payload : Payload) : Except Fault Literal :=
  match payload.literal? kind with
  | some literal => .ok literal
  | none => .error (.literalPayload kind payload)

def Value.ofContent (type : DataType) (content : Content) : Except Fault Value :=
  match type, content with
  | .nativeFunction, .function builtin => .ok (.native builtin)
  | .nativeFunction, .literal _ => .error (.functionRequired content)
  | .void, _ => .error (.unstorableType type)
  | .int, .literal (.int n) => .ok (.int n)
  | .char, .literal (.char byte) => .ok (.char byte)
  | .double, .literal (.double d) => .ok (.double d)
  | .string, .literal (.string s) => .ok (.string s)
  | .pointer pointee, .literal (.int address) => .ok (.pointer pointee address)
  | _, _ => .error (.contentMismatch type content)

def Value.requireLiteral (value : Value) : Except Fault Literal :=
  match value with
  | .native builtin => .error (.literalRequired builtin.name)
  | .int n => .ok (.int n)
  | .char byte => .ok (.char byte)
  | .double d => .ok (.double d)
  | .string s => .ok (.string s)
  | .pointer _ address => .ok (.int address)

end HeapConsole
