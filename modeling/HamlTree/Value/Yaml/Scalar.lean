import HamlTree.Value.Yaml.Resolution

/-!
# Value.Yaml.Scalar -- how a text is written in YAML

A text has four possible styles. `style` chooses the first that fits:

* literal, after `|`, for a text with a line feed;
* plain, for a text that is read back as itself without quotes;
* in single quotes, where a quote is doubled;
* in double quotes, with escapes, which fit every text.

`print` writes the text in that style. Lines after the first start `indent` blanks in, in single
quotes as well as in literal style; empty lines have no blanks.
-/

set_option autoImplicit false

namespace HamlTree.Value.Yaml

/-! ## Characters -/

/-- A character that ends a line. -/
def isBreak (c : Char) : Bool :=
  c == '\n' || c == '\r' || c == '\u0085' || c == '\u2028' || c == '\u2029'

/-- A character that can stand in a text without an escape. -/
def isPrintable (c : Char) : Bool :=
  let n := c.toNat
  n == 0x0A || (0x20 ≤ n && n ≤ 0x7E) || (0xA0 ≤ n && n ≤ 0xD7FF) ||
    (0xE000 ≤ n && n ≤ 0xFFFD && n != 0xFEFF) || 0x10000 ≤ n

/-- A character that separates what stands on both sides of it. -/
def isBlank (c : Char) : Bool :=
  c == ' ' || c == '\t' || isBreak c

/-- The end of the text, or a character that separates. -/
def endsOrIsBlank (next : Option Char) : Bool :=
  next.all isBlank

/-! ## Styles -/

/-- The styles of a text. -/
inductive Style where
  | plain
  | single
  | double
  | literal
deriving DecidableEq, Repr

/-- Two neighbours somewhere in the text satisfy the test. -/
def anyNeighbours (test : Char → Char → Bool) (text : List Char) : Bool :=
  (text.zip text.tail).any fun (a, b) => test a b

/-- A character that opens some other construct at the start of a text. -/
def isIndicator (c : Char) : Bool :=
  "#,[]\x7b\x7d&*!|>'\"%@\x60".toList.contains c

/-- The text starts like some other construct. -/
def startsAsConstruct : List Char → Bool
  | '-' :: '-' :: '-' :: _ | '.' :: '.' :: '.' :: _ => true
  | c :: rest =>
    isIndicator c || ((c == '?' || c == ':' || c == '-') && endsOrIsBlank rest.head?)
  | [] => false

/-- After its first character the text has a colon that would end a key, or a sharp sign that would
start a comment. -/
def hasInnerIndicator (text : List Char) : Bool :=
  anyNeighbours (fun a b => (a == ':' && isBlank b) || (b == '#' && isBlank a)) text.tail ||
    (text.tail.getLast?).any (· == ':') ||
    (match text with
     | a :: '#' :: _ => isBlank a
     | _ => false)

/-- A blank or the end of a line. -/
def isEdge (c : Char) : Bool :=
  c == ' ' || isBreak c

/-- Blanks or line ends at an end of the text would get lost. -/
def hasLooseEdge (text : List Char) : Bool :=
  text.head?.any isEdge || text.getLast?.any isEdge

/-- No style without escapes can hold the text. -/
def needsEscapes (text : List Char) : Bool :=
  text.any (fun c => !isPrintable c) || anyNeighbours (fun a b => a == ' ' && isBreak b) text

/-- Single quotes can hold the text. -/
def allowsSingle (text : List Char) : Bool :=
  !needsEscapes text && !anyNeighbours (fun a b => isBreak a && b == ' ') text

/-- The text can stand without quotes. -/
def allowsPlain (text : List Char) : Bool :=
  allowsSingle text && !text.any isBreak && !hasLooseEdge text && !startsAsConstruct text &&
    !hasInnerIndicator text

/-- The text can stand after `|`. -/
def allowsLiteral (text : List Char) : Bool :=
  !needsEscapes text && text.getLast? != some ' '

/-- The style of a text. -/
def style (text : List Char) : Style :=
  if text.contains '\n' then if allowsLiteral text then .literal else .double
  else if isResolved text then .single
  else if allowsPlain text then .plain
  else if allowsSingle text then .single
  else .double

/-! ## Writing -/

/-- Blanks. -/
def blanks (count : Nat) : List Char :=
  List.replicate count ' '

/-- Write a text over lines, with blanks before the first character of each line that has one.
`fresh` says that a line has just begun. -/
def indentLines (indent : Nat) (write : Char → List Char) : Bool → List Char → List Char
  | _, [] => []
  | fresh, c :: rest =>
    if isBreak c then c :: indentLines indent write true rest
    else
      (if fresh then blanks indent else []) ++ write c ++ indentLines indent write false rest

/-- A character in single quotes. -/
def doubleQuote (c : Char) : List Char :=
  if c == '\'' then ['\'', '\''] else [c]

/-- An upper-case hexadecimal digit. -/
def upperHexDigit (n : Nat) : Char :=
  Char.ofNat (if n < 10 then 0x30 + n else 0x37 + n)

/-- The last `count` hexadecimal digits of a number. -/
def hexDigits : Nat → Nat → List Char
  | 0, _ => []
  | count + 1, n => hexDigits count (n / 16) ++ [upperHexDigit (n % 16)]

/-- The letter that escapes a character, for those that have one. -/
def escapeLetter? (c : Char) : Option Char :=
  match c.toNat with
  | 0x00 => some '0'
  | 0x07 => some 'a'
  | 0x08 => some 'b'
  | 0x09 => some 't'
  | 0x0A => some 'n'
  | 0x0B => some 'v'
  | 0x0C => some 'f'
  | 0x0D => some 'r'
  | 0x1B => some 'e'
  | 0x22 => some '"'
  | 0x5C => some '\\'
  | 0x85 => some 'N'
  | 0x2028 => some 'L'
  | 0x2029 => some 'P'
  | _ => none

/-- A character in double quotes. -/
def escape (c : Char) : List Char :=
  if isPrintable c && !isBreak c && c != '"' && c != '\\' then [c]
  else
    match escapeLetter? c with
    | some letter => ['\\', letter]
    | none =>
      if c.toNat ≤ 0xFF then '\\' :: 'x' :: hexDigits 2 c.toNat
      else if c.toNat ≤ 0xFFFF then '\\' :: 'u' :: hexDigits 4 c.toNat
      else '\\' :: 'U' :: hexDigits 8 c.toNat

/-- The text ends inside a line that starts with it: blanks before a closing quote. -/
def closingIndent (indent : Nat) (text : List Char) : List Char :=
  if text.getLast?.any isBreak then blanks indent else []

/-- The header of a literal text: `2` when the first line's own blanks, or an empty first line, would
hide the indentation; `-` when the text does not end in a line end, `+` when it ends in more than one
or is nothing else. -/
def literalHeader (text : List Char) : List Char :=
  let indentation := if text.head?.any isEdge then ['2'] else []
  let chomping :=
    match text.reverse with
    | last :: before =>
      if !isBreak last then ['-'] else if endsWithBreak before then ['+'] else []
    | [] => ['-']
  '|' :: indentation ++ chomping
where
  /-- Nothing, or a line end, comes first in the reversed text. -/
  endsWithBreak : List Char → Bool
    | [] => true
    | c :: _ => isBreak c

/-- A text in its style, after `key: ` or `- `. -/
def printScalar (indent : Nat) (text : List Char) : List Char :=
  match style text with
  | .plain => text
  | .single =>
    '\'' :: indentLines indent doubleQuote false text ++ closingIndent indent text ++ ['\'']
  | .double => '"' :: text.flatMap escape ++ ['"']
  | .literal => literalHeader text ++ '\n' :: indentLines indent (fun c => [c]) true text

end HamlTree.Value.Yaml
