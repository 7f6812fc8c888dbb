import HeapConsole.Double.Shortest
import HeapConsole.Numeral

/-! Doubles as text: written with the fewest digits that read back, read with correct rounding. -/
namespace HeapConsole.Double

def firstPositionalPoint : Int := -3

def lastPositionalPoint : Int := 16

/-- `12.5`, `0.001`, `100.0`: a point with a digit on either side. -/
def positional (d : Decimal) : List Char :=
  if d.point ≤ 0 then '0' :: '.' :: (List.replicate (-d.point).toNat '0' ++ d.digits)
  else
    let whole := d.point.toNat
    let fraction := d.digits.drop whole
    d.digits.take whole ++ List.replicate (whole - d.digits.length) '0' ++
      '.' :: (if fraction.isEmpty then ['0'] else fraction)

/-- `1e+16`, `1.5e-05`: the exponent has a sign and at least two digits. -/
def scientific (d : Decimal) : List Char :=
  let exponent := d.point - 1
  let fraction := d.digits.drop 1
  d.digits.take 1 ++ (if fraction.isEmpty then [] else '.' :: fraction) ++
    'e' :: (if exponent < 0 then '-' else '+') ::
      Numeral.padLeft 2 '0' (Nat.toDigits 10 exponent.natAbs)

def magnitudeText (units : Nat) : List Char :=
  if units = 0 then ['0', '.', '0']
  else
    let d := shortest units
    if firstPositionalPoint ≤ d.point ∧ d.point ≤ lastPositionalPoint then positional d
    else scientific d

def text : Double → String
  | .nan => "nan"
  | .infinity negative => if negative then "-inf" else "inf"
  | .finite negative units =>
    (if negative then "-" else "") ++ String.ofList (magnitudeText units)

def readDecimal (negative : Bool) (cs : List Char) : Double :=
  let whole := cs.takeWhile Numeral.isDigit
  let afterWhole := cs.dropWhile Numeral.isDigit
  let (fraction, afterFraction) := match afterWhole with
    | '.' :: rest => (rest.takeWhile Numeral.isDigit, rest.dropWhile Numeral.isDigit)
    | rest => ([], rest)
  let exponent : Int := match afterFraction with
    | [] => 0
    | _ :: '+' :: digits => Numeral.value 10 digits
    | _ :: '-' :: digits => -(Numeral.value 10 digits : Int)
    | _ :: digits => Numeral.value 10 digits
  ofDecimal negative (Numeral.value 10 (whole ++ fraction)) (exponent - fraction.length)

def read (text : String) : Double :=
  let (negative, magnitude) := match text.toList with
    | '-' :: rest => (true, rest)
    | '+' :: rest => (false, rest)
    | rest => (false, rest)
  match magnitude.map Char.toLower with
  | ['n', 'a', 'n'] => .nan
  | 'i' :: 'n' :: 'f' :: _ => .infinity negative
  | digits => readDecimal negative digits

end HeapConsole.Double
