import HeapConsole.Coercion

/-! The operators on literals. Ints meet ints exactly, a double on either side makes both doubles,
chars meet chars modulo 256, a char meets an int as an int, and `+` also joins texts. Division of
ints and chars rounds down, and no divisor is zero. -/
namespace HeapConsole.Operator

def onInts (operator : Operator) (left right : Int) : Except Fault Int :=
  match operator with
  | .add => .ok (left + right)
  | .sub => .ok (left - right)
  | .mul => .ok (left * right)
  | .div => if right = 0 then .error .divisionByZero else .ok (left.fdiv right)

def onDoubles (operator : Operator) (left right : Double) : Except Fault Double :=
  match operator with
  | .add => .ok (left.add right)
  | .sub => .ok (left.sub right)
  | .mul => .ok (left.mul right)
  | .div => if right.isZero then .error .divisionByZero else .ok (left.div right)

def onChars (operator : Operator) (left right : UInt8) : Except Fault UInt8 :=
  match operator with
  | .add => .ok (left + right)
  | .sub => .ok (left - right)
  | .mul => .ok (left * right)
  | .div => if right = 0 then .error .divisionByZero else .ok (left / right)

/-- The operator within the domain of one kind, which both literals have to be of; strings are
joined whatever the operator. -/
def within (operator : Operator) (domain : Kind) (left right : Literal) : Except Fault Literal :=
  match domain, left, right with
  | .int, .int a, .int b => (operator.onInts a b).map .int
  | .double, .double a, .double b => (operator.onDoubles a b).map .double
  | .char, .char a, .char b => (operator.onChars a b).map .char
  | .string, .string a, .string b => .ok (.string (a ++ b))
  | _, _, _ => .error (.domainKinds domain left.kind right.kind)

def domain? (operator : Operator) (left right : Kind) : Option Kind :=
  if left.isNumeric ∧ right.isNumeric then
    some (if left = .int ∧ right = .int then .int else .double)
  else if left.isIntegral ∧ right.isIntegral then
    some (if left = .char ∧ right = .char then .char else .int)
  else if operator = .add ∧ left.isTextual ∧ right.isTextual then some .string
  else none

def apply (operator : Operator) (left right : Literal) : Except Fault Literal :=
  match operator.domain? left.kind right.kind with
  | some domain => do
    let a ← left.convert domain
    let b ← right.convert domain
    operator.within domain a b
  | none =>
    if operator = .sub ∧ left.kind = .string ∧ right.kind = .string then .error .stringSubtraction
    else .error (.operandKinds operator left.kind right.kind)

def applySymbol (symbol : String) (left right : Literal) : Except Fault Literal :=
  match ofSymbol? symbol with
  | some operator => operator.apply left right
  | none => .error (.unexpectedOperator symbol)

end HeapConsole.Operator
