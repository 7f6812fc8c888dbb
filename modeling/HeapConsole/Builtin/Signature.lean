import HeapConsole.DataType
import HeapConsole.Json
import HeapConsole.Text.Quoted

/-! The native functions and their declared signatures. -/
namespace HeapConsole

inductive Builtin where
  | malloc
  | clear
  | setDisplayBase
  | sizeof
  | reset
deriving DecidableEq, Repr

/-- One declared parameter; a parameter without a type takes a type as its argument. -/
structure Parameter where
  name : String
  type : Option DataType
deriving DecidableEq, Repr

structure Signature where
  builtin : Builtin
  parameters : List Parameter
  returns : DataType
  summary : String
deriving DecidableEq, Repr

namespace Builtin

def all : List Builtin := [.malloc, .clear, .setDisplayBase, .sizeof, .reset]

def name : Builtin → String
  | .malloc => "malloc"
  | .clear => "clear"
  | .setDisplayBase => "setDisplayBase"
  | .sizeof => "sizeof"
  | .reset => "reset"

def constant : Builtin → String
  | .malloc => "MALLOC"
  | .clear => "CLEAR"
  | .setDisplayBase => "SET_DISPLAY_BASE"
  | .sizeof => "SIZEOF"
  | .reset => "RESET"

def ofName? (name : String) : Option Builtin := all.find? (·.name == name)

def signature : Builtin → Signature
  | .malloc => ⟨.malloc, [⟨"size", some .int⟩], .int,
      "Reserve size contiguous heap bytes and return the start address."⟩
  | .clear => ⟨.clear, [], .void, "Clear the command history."⟩
  | .setDisplayBase => ⟨.setDisplayBase, [⟨"base", some .int⟩], .void,
      "Display integers in base 10 or 16."⟩
  | .sizeof => ⟨.sizeof, [⟨"type", none⟩], .int,
      "Byte size of a type: int is 4, every other type is 1."⟩
  | .reset => ⟨.reset, [], .void, "Zero the heap and release every allocation."⟩

def arity (builtin : Builtin) : Nat := builtin.signature.parameters.length

end Builtin

namespace Parameter

def declared (parameter : Parameter) : String :=
  match parameter.type with
  | some type => type.name ++ " " ++ parameter.name
  | none => parameter.name

def toJson (parameter : Parameter) : Json :=
  .object [
    ("name", .string parameter.name),
    ("kind", .string (if parameter.type.isNone then "type" else "value")),
    ("type", (parameter.type.map fun type => Json.string type.name).getD .null)]

def describe (parameter : Parameter) : String :=
  let type := match parameter.type with
    | some type => "<TypeTag." ++ type.constant ++ ": " ++ Text.quote type.name ++ ">"
    | none => "None"
  "Parameter(name=" ++ Text.quote parameter.name ++ ", type=" ++ type ++ ")"

end Parameter

namespace Signature

def name (signature : Signature) : String := signature.builtin.name

def arity (signature : Signature) : Nat := signature.parameters.length

def text (signature : Signature) : String :=
  signature.returns.name ++ " " ++ signature.name ++ "(" ++
    ", ".intercalate (signature.parameters.map Parameter.declared) ++ ")"

def toJson (signature : Signature) : Json :=
  .object [
    ("name", .string signature.name),
    ("params", .array (signature.parameters.map Parameter.toJson)),
    ("returns", .string signature.returns.name),
    ("summary", .string signature.summary)]

def listing (signature : Signature) : String :=
  signature.text.pushn ' ' (28 - signature.text.length) ++ " " ++ signature.summary

/-- The definition in constructor form; a single parameter is followed by a comma. -/
def describe (signature : Signature) : String :=
  let parameters := match signature.parameters with
    | [parameter] => "(" ++ parameter.describe ++ ",)"
    | parameters => "(" ++ ", ".intercalate (parameters.map Parameter.describe) ++ ")"
  "NativeFunctionDefinition(builtin=<Builtin." ++ signature.builtin.constant ++ ": " ++
    Text.quote signature.name ++ ">, parameters=" ++ parameters ++ ")"

end Signature

def Builtin.registryJson : Json :=
  .object (Builtin.all.map fun builtin => (builtin.name, builtin.signature.toJson))

end HeapConsole
