import HamlTree.Number.Digits

/-!
# Toml.Moment -- dates and times

A moment is a date, a time of day, or both, and only with both can it have a distance from
universal time. Dates have to exist; a minute may have a leap second. The written form has a `T`
between date and time and as many decimals of a second as are needed, nine at most.
-/

set_option autoImplicit false

namespace HamlTree.Toml.Moment

open Number

/-- A date. -/
structure Date where
  year : Nat
  month : Nat
  day : Nat
deriving DecidableEq, Repr

/-- A time of day. -/
structure Time where
  hour : Nat
  minute : Nat
  second : Nat
  nanosecond : Nat
deriving DecidableEq, Repr

/-- The distance from universal time. -/
inductive Offset where
  | zulu
  | minutes (behind : Bool) (count : Nat)
deriving DecidableEq, Repr

/-- How many days a month has. -/
def daysIn (year month : Nat) : Nat :=
  match month with
  | 2 => if year % 4 = 0 && (year % 100 != 0 || year % 400 = 0) then 29 else 28
  | 4 | 6 | 9 | 11 => 30
  | _ => 31

/-- Read two digits that write a number within bounds. -/
def pair? (low high : Nat) : List Char → Option (Nat × List Char)
  | a :: b :: rest =>
    if isDigit a && isDigit b then
      (ofDigits? 10 [a, b]).bind fun n => if low ≤ n && n ≤ high then some (n, rest) else none
    else none
  | _ => none

/-- Read a sign that has to stand here. -/
def sign? (sign : Char) : List Char → Option (List Char)
  | c :: rest => if c == sign then some rest else none
  | [] => none

/-- Read a date. -/
def date? (text : List Char) : Option (Date × List Char) := do
  let (high, text) ← pair? 0 99 text
  let (low, text) ← pair? 0 99 text
  let text ← sign? '-' text
  let (month, text) ← pair? 1 12 text
  let text ← sign? '-' text
  let (day, text) ← pair? 1 31 text
  let year := high * 100 + low
  if day ≤ daysIn year month then some (⟨year, month, day⟩, text) else none

/-- Read the decimals of a second, if there are any. -/
def nanoseconds? (text : List Char) : Option (Nat × List Char) :=
  match text with
  | '.' :: rest =>
    let digits := rest.takeWhile isDigit
    let nine := digits.take 9 ++ List.replicate (9 - digits.length) '0'
    if digits.isEmpty then none
    else (ofDigits? 10 nine).map fun n => (n, rest.dropWhile isDigit)
  | _ => some (0, text)

/-- Read a time of day. -/
def time? (text : List Char) : Option (Time × List Char) := do
  let (hour, text) ← pair? 0 23 text
  let text ← sign? ':' text
  let (minute, text) ← pair? 0 59 text
  let text ← sign? ':' text
  let (second, text) ← pair? 0 60 text
  let (nanosecond, text) ← nanoseconds? text
  some (⟨hour, minute, second, nanosecond⟩, text)

/-- Read a distance from universal time. -/
def offset? (text : List Char) : Option (Offset × List Char) :=
  match text with
  | 'Z' :: rest | 'z' :: rest => some (.zulu, rest)
  | sign :: rest => do
    if sign == '+' || sign == '-' then
      let (hours, rest) ← pair? 0 23 rest
      let rest ← sign? ':' rest
      let (minutes, rest) ← pair? 0 59 rest
      let count := hours * 60 + minutes
      some (.minutes (sign == '-' && count != 0) count, rest)
    else none
  | [] => none

/-! ## Written form -/

/-- A date as it is written. -/
def Date.text (date : Date) : List Char :=
  padded 4 date.year ++ '-' :: padded 2 date.month ++ '-' :: padded 2 date.day

/-- A time of day as it is written. -/
def Time.text (time : Time) : List Char :=
  let decimals := ((padded 9 time.nanosecond).reverse.dropWhile (· == '0')).reverse
  padded 2 time.hour ++ ':' :: padded 2 time.minute ++ ':' :: padded 2 time.second ++
    if decimals.isEmpty then [] else '.' :: decimals

/-- A distance from universal time as it is written. -/
def Offset.text : Offset → List Char
  | .zulu => ['Z']
  | .minutes behind count =>
    (if behind then '-' else '+') :: padded 2 (count / 60) ++ ':' :: padded 2 (count % 60)

/-- Read a time of day with an optional distance from universal time, in its written form. -/
def offsetTime? (text : List Char) : Option (List Char × List Char) :=
  (time? text).map fun (time, rest) =>
    match offset? rest with
    | some (offset, after) => (time.text ++ offset.text, after)
    | none => (time.text, rest)

/-- A sign or a blank between date and time. -/
def isDelimiter (c : Char) : Bool :=
  c == 'T' || c == 't' || c == ' '

/-- Read a moment, in its written form. -/
def read? (text : List Char) : Option (List Char × List Char) :=
  match date? text with
  | some (date, rest) =>
    match rest with
    | delimiter :: more =>
      if isDelimiter delimiter then
        match offsetTime? more with
        | some (time, after) => some (date.text ++ 'T' :: time, after)
        | none => some (date.text, rest)
      else some (date.text, rest)
    | [] => some (date.text, rest)
  | none => (time? text).map fun (time, rest) => (time.text, rest)

end HamlTree.Toml.Moment
