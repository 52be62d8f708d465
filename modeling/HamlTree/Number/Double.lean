import HamlTree.Number.Decimal

/-!
# Number.Double -- numbers in double precision

A finite magnitude is a whole number below 2^53 times a power of two not below 2^-1074. `nearest`
rounds a fraction to such a number, a half to the even neighbour; from `2^1024 - 2^970` on, the
result is infinite. `shortest` goes back: of the decimals that round to a magnitude it takes the
ones with the fewest digits, of these the nearest, and of two equally near ones the greater.
-/

set_option autoImplicit false

namespace HamlTree.Number

/-- The size of a number in double precision. -/
inductive Magnitude where
  | finite (mantissa : Nat) (exponent : Int)
  | infinite
  | notANumber
deriving DecidableEq, Repr

/-- A number in double precision. -/
structure Double where
  negative : Bool
  magnitude : Magnitude
deriving DecidableEq, Repr

/-! ## Rounding -/

/-- The whole number nearest to a quotient; a half goes to the even neighbour. -/
def roundHalfEven (numerator denominator : Nat) : Nat :=
  let quotient := numerator / denominator
  let twice := 2 * (numerator % denominator)
  if twice < denominator then quotient
  else if denominator < twice then quotient + 1
  else if quotient % 2 = 0 then quotient else quotient + 1

/-- A fraction divided by a power of two. -/
def dividePower (numerator denominator : Nat) : Int → Nat × Nat
  | .ofNat power => (numerator, denominator * Nat.pow 2 power)
  | .negSucc power => (numerator * Nat.pow 2 (power + 1), denominator)

/-- The magnitude nearest to a fraction. -/
def nearest (numerator denominator : Nat) : Magnitude :=
  if numerator = 0 then .finite 0 (-1074)
  else
    let order : Int := (numerator.log2 : Int) - denominator.log2
    let low : Int := if order - 53 < -1074 then -1074 else order - 53
    let (a, b) := dividePower numerator denominator low
    let exponent := if a / b < Nat.pow 2 53 then low else low + 1
    let (a, b) := dividePower numerator denominator exponent
    let mantissa := roundHalfEven a b
    let (mantissa, exponent) :=
      if mantissa = Nat.pow 2 53 then (Nat.pow 2 52, exponent + 1) else (mantissa, exponent)
    if exponent > 971 then .infinite else .finite mantissa exponent

/-- The magnitude nearest to a decimal number. Its order decides when it is far out of range. -/
def Decimal.nearest (number : Decimal) : Magnitude :=
  if number.significand = 0 || number.order < -330 then .finite 0 (-1074)
  else if number.order > 330 then .infinite
  else
    let (numerator, denominator) := number.fraction
    Number.nearest numerator denominator

namespace Double

/-- Zero of either sign. -/
def isZero (number : Double) : Bool :=
  match number.magnitude with
  | .finite mantissa _ => mantissa == 0
  | _ => false

/-! ## Shortest decimals -/

/-- A multiple of a power of ten as a fraction. -/
def gridPoint (count : Nat) (power : Int) : Nat × Nat :=
  Decimal.fraction ⟨count, power⟩

/-- A multiple of a power of ten, with one digit when it is the next power of ten. -/
def gridDecimal (digits count : Nat) (power : Int) : Decimal :=
  if count = Nat.pow 10 digits then ⟨1, power + digits⟩ else ⟨count, power⟩

/-- The decimal of `digits` digits nearest to a magnitude, if it rounds to that magnitude. -/
def shortestOf (mantissa : Nat) (exponent : Int) (digits : Nat) : Option Decimal :=
  let (unit, scale) := dividePower 1 1 (2 - exponent)
  let value := 4 * mantissa * unit
  let below := if mantissa = Nat.pow 2 52 && exponent > -1074 then 1 else 2
  let low := (4 * mantissa - below) * unit
  let high := (4 * mantissa + 2) * unit
  let order : Int :=
    let estimate : Int := (digitCount value : Int) - digitCount scale
    let (p, q) := gridPoint 1 estimate
    if value * q < p * scale then estimate else estimate + 1
  let power := order - digits
  let (p, q) := gridPoint 1 power
  let floor := value * q / (scale * p)
  let reaches (count : Nat) : Bool :=
    let point := count * p * scale
    if mantissa % 2 = 0 then low * q ≤ point && point ≤ high * q
    else low * q < point && point < high * q
  let lowerIsNearer := 2 * value * q < (2 * floor + 1) * p * scale
  match reaches floor, reaches (floor + 1) with
  | true, true => some (gridDecimal digits (if lowerIsNearer then floor else floor + 1) power)
  | true, false => some (gridDecimal digits floor power)
  | false, true => some (gridDecimal digits (floor + 1) power)
  | false, false => none

/-- The shortest decimal that rounds to a finite magnitude. Seventeen digits always suffice. -/
def shortest (mantissa : Nat) (exponent : Int) : Decimal :=
  if mantissa = 0 then ⟨0, 0⟩
  else
    ((List.range 17).findSome? fun count => shortestOf mantissa exponent (count + 1)).getD ⟨0, 0⟩

/-- A decimal number in positional notation, with at least one digit on both sides of the point. -/
def positional (number : Decimal) : List Char :=
  let digits := Nat.toDigits 10 number.significand
  match number.exponent with
  | .ofNat power => digits ++ List.replicate power '0' ++ ['.', '0']
  | .negSucc power =>
    let filled := List.replicate (power + 2 - digits.length) '0' ++ digits
    let wholeLength := filled.length - (power + 1)
    filled.take wholeLength ++ '.' :: filled.drop wholeLength

/-- A number in positional notation, with the fewest digits that identify it. -/
def text (number : Double) : List Char :=
  let sign := if number.negative then ['-'] else []
  match number.magnitude with
  | .finite mantissa exponent => sign ++ positional (shortest mantissa exponent)
  | .infinite => sign ++ ['i', 'n', 'f']
  | .notANumber => ['N', 'a', 'N']

end Double

end HamlTree.Number
