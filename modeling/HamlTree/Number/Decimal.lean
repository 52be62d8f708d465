import HamlTree.Number.Digits

/-!
# Number.Decimal -- decimal numbers as they are written

A decimal number without a sign is a whole number times a power of ten. `Decimal.ofText?` reads
the usual notation: digits with an optional point among, before or after them, then an optional
exponent.
-/

set_option autoImplicit false

namespace HamlTree.Number

/-- The number `significand` times ten to the power `exponent`. -/
structure Decimal where
  significand : Nat
  exponent : Int
deriving DecidableEq, Repr

namespace Decimal

/-- The number of digits before the point; negative when zeros follow it. A number other than zero is
at least ten to the power `order - 1` and less than ten to the power `order`. -/
def order (number : Decimal) : Int :=
  digitCount number.significand + number.exponent

/-- The number as a fraction. -/
def fraction (number : Decimal) : Nat × Nat :=
  match number.exponent with
  | .ofNat power => (number.significand * Nat.pow 10 power, 1)
  | .negSucc power => (number.significand, Nat.pow 10 (power + 1))

/-- Read an exponent: nothing at all, or its mark, a sign and digits. -/
def exponent? : List Char → Option Int
  | [] => some 0
  | mark :: rest =>
    if mark == 'e' || mark == 'E' then
      match rest with
      | '-' :: digits => (ofDigits? 10 digits).map fun n => -(n : Int)
      | '+' :: digits => (ofDigits? 10 digits).map Int.ofNat
      | digits => (ofDigits? 10 digits).map Int.ofNat
    else none

/-- Read a decimal number without a sign. It needs a digit before the exponent. -/
def ofText? (text : List Char) : Option Decimal :=
  let whole := text.takeWhile isDigit
  let afterWhole := text.dropWhile isDigit
  let (part, rest) :=
    match afterWhole with
    | '.' :: more => (more.takeWhile isDigit, more.dropWhile isDigit)
    | _ => ([], afterWhole)
  match ofDigits? 10 (whole ++ part), exponent? rest with
  | some significand, some exponent => some ⟨significand, exponent - part.length⟩
  | _, _ => none

end Decimal

end HamlTree.Number
