/-! Double-precision numbers in exact arithmetic. A finite double is a whole number of units of
`2⁻¹⁰⁷⁴`, the least positive double, so each operation computes an exact quotient in that unit and
rounds it once, to the nearest double and to the even one of two equally near. -/
namespace HeapConsole

/-- A double: its sign is kept for zeros and infinities, and there is one `nan`. -/
inductive Double where
  | nan
  | infinity (negative : Bool)
  | finite (negative : Bool) (units : Nat)
deriving DecidableEq, Repr

namespace Double

def unity : Nat := Nat.pow 2 1074

def overflow : Nat := Nat.pow 2 1024 * unity

def precision : Nat := 53

def bitLength (n : Nat) : Nat := if n = 0 then 0 else n.log2 + 1

/-- The whole number nearest to a quotient, the even one of two. -/
def nearest (numerator denominator : Nat) : Nat :=
  let quotient := numerator / denominator
  let twice := 2 * (numerator % denominator)
  if twice < denominator ∨ (twice = denominator ∧ quotient % 2 = 0) then quotient else quotient + 1

def nearestUnits (numerator denominator : Nat) : Nat :=
  let spacing := Nat.pow 2 (bitLength (numerator / denominator) - precision)
  nearest numerator (denominator * spacing) * spacing

def ofUnits (negative : Bool) (numerator denominator : Nat) : Double :=
  let units := nearestUnits numerator denominator
  if units < overflow then .finite negative units else .infinity negative

def isZero : Double → Bool
  | .finite _ units => units == 0
  | _ => false

def ofInt? (n : Int) : Option Double :=
  match ofUnits (n < 0) (unity * n.natAbs) 1 with
  | .finite negative units => some (.finite negative units)
  | _ => none

def truncate? : Double → Option Int
  | .finite true units => some (-((units / unity : Nat) : Int))
  | .finite false units => some ((units / unity : Nat) : Int)
  | _ => none

/-- The double nearest to `digits · 10 ^ exponent`. Exponents that leave the range of doubles for
certain are settled before any power is computed. -/
def ofDecimal (negative : Bool) (digits : Nat) (exponent : Int) : Double :=
  let length : Int := (toString digits).length
  if digits = 0 ∨ length + exponent < -400 then .finite negative 0
  else if 400 < length + exponent then .infinity negative
  else
    ofUnits negative (unity * (digits * Nat.pow 10 exponent.toNat)) (Nat.pow 10 (-exponent).toNat)

def neg : Double → Double
  | .nan => .nan
  | .infinity negative => .infinity (!negative)
  | .finite negative units => .finite (!negative) units

def signedUnits (negative : Bool) (units : Nat) : Int := if negative then -(units : Int) else units

/-- An exact sum of zero is the positive zero, unless both operands are negative zeros. -/
def add : Double → Double → Double
  | .nan, _ => .nan
  | _, .nan => .nan
  | .infinity left, .infinity right => if left = right then .infinity left else .nan
  | .infinity left, _ => .infinity left
  | _, .infinity right => .infinity right
  | .finite left m, .finite right n =>
    let sum := signedUnits left m + signedUnits right n
    if sum = 0 then .finite (left && right && m == 0) 0 else ofUnits (sum < 0) sum.natAbs 1

def sub (left right : Double) : Double := left.add right.neg

def mul : Double → Double → Double
  | .nan, _ => .nan
  | _, .nan => .nan
  | .infinity left, .infinity right => .infinity (left != right)
  | .infinity left, .finite right n => if n = 0 then .nan else .infinity (left != right)
  | .finite left m, .infinity right => if m = 0 then .nan else .infinity (left != right)
  | .finite left m, .finite right n => ofUnits (left != right) (m * n) unity

def div : Double → Double → Double
  | .nan, _ => .nan
  | _, .nan => .nan
  | .infinity _, .infinity _ => .nan
  | .infinity left, .finite right _ => .infinity (left != right)
  | .finite left _, .infinity right => .finite (left != right) 0
  | .finite left m, .finite right n =>
    if n = 0 then (if m = 0 then .nan else .infinity (left != right))
    else ofUnits (left != right) (unity * m) n

end Double

end HeapConsole
