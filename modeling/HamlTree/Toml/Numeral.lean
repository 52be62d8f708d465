import HamlTree.Toml.Data

/-!
# Toml.Numeral -- numbers and truth values

A whole number is decimal with an optional sign and no leading zero, or has its base marked `0x`,
`0o` or `0b` and no sign; 64 bits have to hold it. A float has a fraction, an exponent or both, or
is `inf` or `nan`. Underscores may stand between digits. A float too large for double precision is
refused, unless it is negative.
-/

set_option autoImplicit false

namespace HamlTree.Toml.Numeral

open Number

/-- The digits without the underscores between them. -/
def withoutUnderscores? (isDigit : Char → Bool) : List Char → Option (List Char)
  | [] => none
  | [c] => if isDigit c then some [c] else none
  | c :: '_' :: rest =>
    if isDigit c then (withoutUnderscores? isDigit rest).map (c :: ·) else none
  | c :: rest => if isDigit c then (withoutUnderscores? isDigit rest).map (c :: ·) else none

/-- A digit of the base. -/
def isDigitOf (base : Nat) (c : Char) : Bool :=
  (digitValue? c).any (· < base)

/-- A number in a marked base. -/
def marked? (base : Nat) (text : List Char) : Option Data :=
  ((withoutUnderscores? (isDigitOf base) text).bind (ofDigits? base)).bind fun n =>
    if n < Nat.pow 2 63 then some (.integer n) else none

/-- Decimal digits without a leading zero. -/
def wholeDigits? (text : List Char) : Option (List Char) :=
  (withoutUnderscores? Number.isDigit text).filter fun digits =>
    digits.length == 1 || digits.head? != some '0'

/-- A sign and what follows it. -/
def splitSign : List Char → Bool × List Char
  | '-' :: rest => (true, rest)
  | '+' :: rest => (false, rest)
  | text => (false, text)

/-- A whole number in decimal notation. -/
def integer? (text : List Char) : Option Data :=
  let (negative, body) := splitSign text
  ((wholeDigits? body).bind (ofDigits? 10)).bind fun n =>
    if negative then if n ≤ Nat.pow 2 63 then some (.integer (-(n : Int))) else none
    else if n < Nat.pow 2 63 then some (.integer n) else none

/-- The digits of an exponent, with its sign, behind its mark. -/
def exponentDigits? (text : List Char) : Option (List Char) :=
  let (negative, body) := splitSign text
  (withoutUnderscores? Number.isDigit body).map fun digits =>
    if negative then '-' :: digits else digits

/-- The exponent of a float without underscores, or nothing. -/
def exponentPart? : List Char → Option (List Char)
  | [] => some []
  | mark :: rest =>
    if mark == 'e' || mark == 'E' then (exponentDigits? rest).map ('e' :: ·) else none

/-- A character that continues a run of digits. -/
def isDigitOrUnderscore (c : Char) : Bool :=
  Number.isDigit c || c == '_'

/-- A float without its sign, without underscores. It needs a fraction or an exponent. -/
def floatText? (text : List Char) : Option (List Char) := do
  let whole ← wholeDigits? (text.takeWhile isDigitOrUnderscore)
  match text.dropWhile isDigitOrUnderscore with
  | [] => none
  | '.' :: more =>
    let part ← withoutUnderscores? Number.isDigit (more.takeWhile isDigitOrUnderscore)
    let exponent ← exponentPart? (more.dropWhile isDigitOrUnderscore)
    some (whole ++ '.' :: part ++ exponent)
  | rest => (exponentPart? rest).map (whole ++ ·)

/-- A float. -/
def float? (text : List Char) : Option Data :=
  let (negative, body) := splitSign text
  if body == ['i', 'n', 'f'] then some (.float ⟨negative, .infinite⟩)
  else if body == ['n', 'a', 'n'] then some (.float ⟨negative, .notANumber⟩)
  else
    ((floatText? body).bind Decimal.ofText?).bind fun number =>
      let magnitude := number.nearest
      if magnitude == .infinite && !negative then none else some (.float ⟨negative, magnitude⟩)

/-- A number or a truth value. -/
def ofToken? (token : List Char) : Option Data :=
  match token with
  | ['t', 'r', 'u', 'e'] => some (.boolean true)
  | ['f', 'a', 'l', 's', 'e'] => some (.boolean false)
  | '0' :: 'x' :: digits => marked? 16 digits
  | '0' :: 'o' :: digits => marked? 8 digits
  | '0' :: 'b' :: digits => marked? 2 digits
  | _ => (float? token).or (integer? token)

end HamlTree.Toml.Numeral
