import HeapConsole.DataType
import HeapConsole.Double.Text
import HeapConsole.Text.Quoted

/-! Literals: primitive values that agree with their kind by construction. -/
namespace HeapConsole

inductive Literal where
  | int (value : Int)
  | double (value : Double)
  | char (value : UInt8)
  | string (value : String)
deriving DecidableEq, Repr

namespace Literal

def kind : Literal → Kind
  | .int _ => .int
  | .double _ => .double
  | .char _ => .char
  | .string _ => .string

def valueText : Literal → String
  | .int value => Numeral.decimal value
  | .double value => value.text
  | .char value => toString value.toNat
  | .string value => Text.quote value

def describe (literal : Literal) : String := literal.kind.name ++ "(" ++ literal.valueText ++ ")"

/-- The integer that a description of the literal writes in full. -/
def integer? : Literal → Option Int
  | .int value => some value
  | _ => none

end Literal

/-- A value whose kind has not been checked yet. -/
inductive Payload where
  | int (value : Int)
  | double (value : Double)
  | string (value : String)
  | bool (value : Bool)
  | absent
deriving DecidableEq, Repr

namespace Payload

def text : Payload → String
  | .int value => Numeral.decimal value
  | .double value => value.text
  | .string value => Text.quote value
  | .bool true => "True"
  | .bool false => "False"
  | .absent => "None"

def integer? : Payload → Option Int
  | .int value => some value
  | _ => none

/-- The literal of a kind that holds the payload: a truth value is no integer, and a char is an
integer from 0 to 255. -/
def literal? : Kind → Payload → Option Literal
  | .int, .int value => some (.int value)
  | .double, .double value => some (.double value)
  | .char, .int value =>
    if 0 ≤ value ∧ value ≤ 255 then some (.char (UInt8.ofNat value.toNat)) else none
  | .string, .string value => some (.string value)
  | _, _ => none

end Payload

end HeapConsole
