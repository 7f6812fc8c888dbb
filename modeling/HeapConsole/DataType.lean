/-! The kinds of literals and the types that statements can name. -/
namespace HeapConsole

inductive Kind where
  | int
  | double
  | char
  | string
deriving DecidableEq, Repr

def Kind.name : Kind → String
  | .int => "int"
  | .double => "double"
  | .char => "char"
  | .string => "string"

namespace Kind

def isNumeric : Kind → Bool
  | .int | .double => true
  | .char | .string => false

def isIntegral : Kind → Bool
  | .int | .char => true
  | .double | .string => false

def isTextual : Kind → Bool
  | .char | .string => true
  | .int | .double => false

end Kind

inductive Pointee where
  | int
  | char
deriving DecidableEq, Repr

inductive DataType where
  | void
  | int
  | char
  | double
  | string
  | pointer (pointee : Pointee)
  | nativeFunction
deriving DecidableEq, Repr

def Kind.type : Kind → DataType
  | .int => .int
  | .double => .double
  | .char => .char
  | .string => .string

namespace DataType

def all : List DataType :=
  [.void, .int, .char, .double, .string, .pointer .int, .pointer .char, .nativeFunction]

def name : DataType → String
  | .void => "void"
  | .int => "int"
  | .char => "char"
  | .double => "double"
  | .string => "string"
  | .pointer .int => "int*"
  | .pointer .char => "char*"
  | .nativeFunction => "nativeFunction"

/-- The constant that a printed tree shows for the type. -/
def constant : DataType → String
  | .void => "VOID"
  | .int => "INT"
  | .char => "CHAR"
  | .double => "DOUBLE"
  | .string => "STRING"
  | .pointer .int => "INT_PTR"
  | .pointer .char => "CHAR_PTR"
  | .nativeFunction => "NATIVE_FUNCTION"

def isPointer : DataType → Bool
  | .pointer _ => true
  | _ => false

/-- The kind of literal that values of the type carry; a pointer carries its address. -/
def kind? : DataType → Option Kind
  | .void => none
  | .int => some .int
  | .char => some .char
  | .double => some .double
  | .string => some .string
  | .pointer _ => some .int
  | .nativeFunction => none

def ofName? (name : String) : Option DataType := all.find? (·.name == name)

end DataType

def Kind.ofName? (name : String) : Option Kind :=
  [Kind.int, .double, .char, .string].find? (·.name == name)

end HeapConsole
