import HamlTree.Number.Double

/-!
# Value.Yaml.Resolution -- plain texts that mean something else

Without quotes, YAML reads `true`, `12` or `~` as a truth value, a number or nothing. `isResolved`
holds of the texts that need quotes on this account to stay texts:

* Nothing: the empty text, `null` and `~`. Truth values: `true` and `false`. Of each word three
  spellings count: lower case, capitalised, upper case.
* Integers in base 16, 8 or 2, marked `0x`, `0o`, `0b`, as far as 128 bits hold them.
* Decimal numbers with optional fraction and exponent, as long as a double can hold them: one that
  rounds to infinity stays a text. Whole numbers are a special case of these.
* `.inf` and `.nan`.
* Digits after a leading zero. They are no number, yet are quoted all the same.
-/

set_option autoImplicit false

namespace HamlTree.Value.Yaml

open Number

/-! ## Integers with a marked base -/

/-- The digits after the mark write a number of at most `limit`. -/
def fits (base limit : Nat) (digits : List Char) : Bool :=
  (ofDigits? base digits).any (· ≤ limit)

/-- A number with a marked base, of at most `limit`. -/
def isMarkedMagnitude (limit : Nat) : List Char → Bool
  | '0' :: 'x' :: digits => fits 16 limit digits
  | '0' :: 'o' :: digits => fits 8 limit digits
  | '0' :: 'b' :: digits => fits 2 limit digits
  | _ => false

/-- An integer with a marked base that 128 bits hold. -/
def isMarkedInteger : List Char → Bool
  | '-' :: rest => isMarkedMagnitude (Nat.pow 2 127) rest
  | '+' :: rest => isMarkedMagnitude (Nat.pow 2 128 - 1) rest
  | text => isMarkedMagnitude (Nat.pow 2 128 - 1) text

/-! ## Decimal numbers -/

/-- A decimal number that a double can hold, without a sign. -/
def isFiniteDecimal (text : List Char) : Bool :=
  (Decimal.ofText? text).any fun number => number.nearest != .infinite

/-- The spellings of infinity. -/
def isInfinity (text : List Char) : Bool :=
  [".inf", ".Inf", ".INF"].any (·.toList == text)

/-- A number that needs no mark of its base. -/
def isPlainNumber : List Char → Bool
  | '-' :: rest | '+' :: rest => isInfinity rest || isFiniteDecimal rest
  | text => isInfinity text || isFiniteDecimal text

/-! ## Words -/

/-- Texts that stand for nothing, a truth value, or no number. -/
def reservedWords : List String :=
  ["", "~", "null", "Null", "NULL", "true", "True", "TRUE", "false", "False", "FALSE",
   ".nan", ".NaN", ".NAN"]

/-- Digits after a leading zero. -/
def isZeroPadded : List Char → Bool
  | '0' :: digits => !digits.isEmpty && digits.all isDigit
  | _ => false

/-- Digits after a leading zero and an optional sign. -/
def isZeroPaddedSigned : List Char → Bool
  | '-' :: rest | '+' :: rest => isZeroPadded rest
  | text => isZeroPadded text

/-- A reader would not take the unquoted text for a text. -/
def isResolved (text : List Char) : Bool :=
  reservedWords.any (·.toList == text) || isMarkedInteger text || isPlainNumber text ||
    isZeroPaddedSigned text

end HamlTree.Value.Yaml
