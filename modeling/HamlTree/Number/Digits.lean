/-!
# Number.Digits -- numbers from digits

Digits of any base up to sixteen, in either case. A number needs at least one digit, and every
character has to be a digit of the base.
-/

set_option autoImplicit false

namespace HamlTree.Number

/-- A decimal digit. -/
def isDigit (c : Char) : Bool :=
  '0' ≤ c && c ≤ '9'

/-- The value of a digit, whatever the base. -/
def digitValue? (c : Char) : Option Nat :=
  if '0' ≤ c && c ≤ '9' then some (c.toNat - 0x30)
  else if 'a' ≤ c && c ≤ 'f' then some (c.toNat - 0x57)
  else if 'A' ≤ c && c ≤ 'F' then some (c.toNat - 0x37)
  else none

/-- Continue a number with one more digit. -/
def addDigit (base : Nat) (value : Option Nat) (c : Char) : Option Nat :=
  match value, digitValue? c with
  | some high, some digit => if digit < base then some (high * base + digit) else none
  | _, _ => none

/-- The number that the digits write. -/
def ofDigits? (base : Nat) (digits : List Char) : Option Nat :=
  if digits.isEmpty then none else digits.foldl (addDigit base) (some 0)

/-- How many decimal digits a number has; zero has none. -/
def digitCount (n : Nat) : Nat :=
  if n = 0 then 0 else (Nat.toDigits 10 n).length

/-- A number with at least `width` digits. -/
def padded (width n : Nat) : List Char :=
  let digits := Nat.toDigits 10 n
  List.replicate (width - digits.length) '0' ++ digits

end HamlTree.Number
