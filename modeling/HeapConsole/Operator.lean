/-! The four binary operators of expressions. -/
namespace HeapConsole

inductive Operator where
  | add
  | sub
  | mul
  | div
deriving DecidableEq, Repr

namespace Operator

def all : List Operator := [.add, .sub, .mul, .div]

def symbol : Operator → String
  | .add => "+"
  | .sub => "-"
  | .mul => "*"
  | .div => "/"

def constant : Operator → String
  | .add => "ADD"
  | .sub => "SUB"
  | .mul => "MUL"
  | .div => "DIV"

def ofSymbol? (symbol : String) : Option Operator := all.find? (·.symbol == symbol)

/-- Addition and subtraction bind less tightly than the other two. -/
def isAdditive : Operator → Bool
  | .add | .sub => true
  | .mul | .div => false

end Operator

end HeapConsole
