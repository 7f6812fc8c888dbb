import HeapConsole.Builtin.Signature
import HeapConsole.Literal

/-! Values of variables and expressions, and results of statements. The type of a value agrees
with what it holds by construction, and a native function is always a registered one. -/
namespace HeapConsole

inductive Value where
  | int (value : Int)
  | char (value : UInt8)
  | double (value : Double)
  | string (value : String)
  | pointer (pointee : Pointee) (address : Int)
  | native (builtin : Builtin)
deriving DecidableEq, Repr

namespace Value

def type : Value → DataType
  | .int _ => .int
  | .char _ => .char
  | .double _ => .double
  | .string _ => .string
  | .pointer pointee _ => .pointer pointee
  | .native _ => .nativeFunction

def literal? : Value → Option Literal
  | .int value => some (.int value)
  | .char value => some (.char value)
  | .double value => some (.double value)
  | .string value => some (.string value)
  | .pointer _ address => some (.int address)
  | .native _ => none

def ofLiteral : Literal → Value
  | .int value => .int value
  | .double value => .double value
  | .char value => .char value
  | .string value => .string value

def isNative : Value → Bool
  | .native _ => true
  | _ => false

def describe : Value → String
  | .native builtin => "<nativeFunction " ++ builtin.name ++ ">"
  | .int value => "<int " ++ Numeral.decimal value ++ ">"
  | .char value => "<char " ++ toString value.toNat ++ ">"
  | .double value => "<double " ++ value.text ++ ">"
  | .string value => "<string " ++ Text.quote value ++ ">"
  | .pointer pointee address =>
    "<" ++ (DataType.pointer pointee).name ++ " " ++ Numeral.decimal address ++ ">"

def integer? (value : Value) : Option Int := value.literal?.bind Literal.integer?

end Value

inductive Result where
  | void
  | value (value : Value)
deriving DecidableEq, Repr

instance : Coe Value Result := ⟨.value⟩

namespace Result

def type : Result → DataType
  | .void => .void
  | .value v => v.type

def integer? : Result → Option Int
  | .void => none
  | .value v => v.integer?

end Result

/-- What a value is to be made of: a literal or a native function. -/
inductive Content where
  | literal (literal : Literal)
  | function (builtin : Builtin)
deriving DecidableEq, Repr

namespace Content

def describe : Content → String
  | .literal l => l.describe
  | .function builtin => builtin.signature.describe

def integer? : Content → Option Int
  | .literal l => l.integer?
  | .function _ => none

end Content

end HeapConsole
