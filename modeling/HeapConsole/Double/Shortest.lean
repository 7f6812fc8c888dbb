import HeapConsole.Double.Basic

/-! The shortest decimal that reads back as a given double. For one digit, two digits and so on,
the two neighbours of the double on that decimal grid are tried; the first grid with a neighbour
that reads back decides, the nearer of two such neighbours wins, and the even one of two equally
near. -/
namespace HeapConsole.Double

/-- A positive decimal `0.d₁d₂… · 10 ^ point` with no zero at either end of its digits. -/
structure Decimal where
  digits : List Char
  point : Int
deriving DecidableEq, Repr

/-- The number of digits before the point of a magnitude of at least one, and otherwise minus the
number of zeros after the point. -/
def pointOf (units : Nat) : Int :=
  if unity ≤ units then ((Nat.toDigits 10 (units / unity)).length : Int)
  else
    -- The least positive double has 323 zeros, so the search never ends without one.
    let zeros := ((List.range 325).find? fun n => unity ≤ units * Nat.pow 10 (n + 1)).getD 325
    Int.neg zeros

def onGrid (units : Nat) (scale : Int) : Nat × Nat :=
  (units * Nat.pow 10 (-scale).toNat, unity * Nat.pow 10 scale.toNat)

def readsBack (units digits : Nat) (scale : Int) : Bool :=
  nearestUnits (digits * Nat.pow 10 scale.toNat * unity) (Nat.pow 10 (-scale).toNat) == units

def candidate (units : Nat) (scale : Int) : Option Nat :=
  let (numerator, denominator) := onGrid units scale
  let below := numerator / denominator
  match readsBack units below scale, readsBack units (below + 1) scale with
  | true, true => some (nearest numerator denominator)
  | true, false => some below
  | false, true => some (below + 1)
  | false, false => none

def Decimal.of (digits : Nat) (scale : Int) : Decimal :=
  let written := Nat.toDigits 10 digits
  ⟨(written.reverse.dropWhile (· == '0')).reverse, written.length + scale⟩

/-- The shortest decimal of a positive number of units; seventeen digits always read back. -/
def shortest (units : Nat) : Decimal :=
  let point := pointOf units
  let found := (List.range 17).findSome? fun (n : Nat) =>
    let scale := point - ((n : Int) + 1)
    (candidate units scale).map fun digits => Decimal.of digits scale
  found.getD ⟨[], point⟩

end HeapConsole.Double
