import HeapConsole.Checked

/-! Conversions between types. An int is any integer, a char keeps the low byte of an integer, a
double loses its fraction on the way to an integer, and only chars and strings turn into each
other as text. A pointer converts as its address. -/
namespace HeapConsole

def lowByte (n : Int) : UInt8 := UInt8.ofNat (n % 256).toNat

def byteChar (byte : UInt8) : Char := Char.ofNat byte.toNat

/-- The integer part of a double, on the way to the type `target`. -/
def Double.truncate (value : Double) (target : DataType) : Except Fault Int :=
  match value.truncate? with
  | some n => .ok n
  | none => .error (.coercion .double target (.noIntegerValue value))

def Double.ofInt (n : Int) (source : DataType) : Except Fault Double :=
  match ofInt? n with
  | some number => .ok number
  | none => .error (.coercion source .double .tooLarge)

namespace Literal

def toInt : Literal → Except Fault Int
  | .int value => .ok value
  | .double value => value.truncate .int
  | .char value => .ok value.toNat
  | .string _ => .error (.coercion .string .int .unsupported)

def toDouble : Literal → Except Fault Double
  | .double value => .ok value
  | .int value => Double.ofInt value .int
  | .char value => Double.ofInt value.toNat .char
  | .string _ => .error (.coercion .string .double .unsupported)

def toChar : Literal → Except Fault UInt8
  | .char value => .ok value
  | .int value => .ok (lowByte value)
  | .double value => (value.truncate .char).map lowByte
  | .string value =>
    match value.toList with
    | [c] =>
      if c.toNat ≤ 255 then .ok (UInt8.ofNat c.toNat)
      else .error (.coercion .string .char (.wideCharacter c.toNat))
    | cs => .error (.coercion .string .char (.characterCount cs.length))

def toText : Literal → Except Fault String
  | .string value => .ok value
  | .char value => .ok (String.singleton (byteChar value))
  | .int _ => .error (.coercion .int .string .unsupported)
  | .double _ => .error (.coercion .double .string .unsupported)

def convert (literal : Literal) : Kind → Except Fault Literal
  | .int => literal.toInt.map .int
  | .double => literal.toDouble.map .double
  | .char => literal.toChar.map .char
  | .string => literal.toText.map .string

def coerce (literal : Literal) (target : DataType) : Except Fault Value :=
  match target.kind? with
  | some kind => do
    let converted ← literal.convert kind
    Value.ofContent target (.literal converted)
  | none => .error (.coercion literal.kind.type target .unsupported)

end Literal

/-- A value of the target type is kept; nothing converts from or to a native function or void. -/
def Value.coerce (value : Value) (target : DataType) : Except Fault Value :=
  match value.literal?, target.kind? with
  | some literal, some _ => if value.type = target then .ok value else literal.coerce target
  | _, _ => .error (.coercion value.type target .unsupported)

def Result.coerce (result : Result) (target : DataType) : Except Fault Value :=
  match result with
  | .void => .error (.coercion .void target .unsupported)
  | .value v => v.coerce target

def Value.toInt (value : Value) : Except Fault Int :=
  match value.literal? with
  | some literal => literal.toInt
  | none => .error (.coercion value.type .int .unsupported)

def Result.toInt : Result → Except Fault Int
  | .void => .error (.coercion .void .int .unsupported)
  | .value v => v.toInt

end HeapConsole
