import HamlTree.Text.Alphabetic
import HamlTree.Text.Mark
import HamlTree.Text.Number

/-!
# Text.CharClass -- the three character classes of the template grammar

* `isSpace`: white space, which trimming removes and the code patterns skip;
* `isWord`: the characters of names, keywords and filter names, which include marks, connecting
  punctuation such as `_`, and the two joiners;
* `isAlphanumeric`: letters and numbers of every kind, which decide whether a `?` before a comma
  ends a predicate name or starts a character literal.

The last two differ: a superscript two is alphanumeric and no word character, a combining accent
or a joiner the other way round. They also follow different versions of the Unicode standard:
names stay with version 16, and `isAlphanumeric` knows the characters of version 17. Below U+0080
each class is a short list, so that plain text never reaches the tables.
-/

set_option autoImplicit false

namespace HamlTree.Text

/-- The character has the White_Space property. -/
def isSpace (c : Char) : Bool :=
  (0x09 ≤ c.toNat && c.toNat ≤ 0x0D) || c.toNat == 0x20 || c.toNat == 0x85 || c.toNat == 0xA0 ||
  c.toNat == 0x1680 || (0x2000 ≤ c.toNat && c.toNat ≤ 0x200A) || c.toNat == 0x2028 ||
  c.toNat == 0x2029 || c.toNat == 0x202F || c.toNat == 0x205F || c.toNat == 0x3000

/-- A letter or digit of the basic Latin alphabet. -/
def isLatinAlphanumeric (c : Char) : Bool :=
  ('a' ≤ c && c ≤ 'z') || ('A' ≤ c && c ≤ 'Z') || ('0' ≤ c && c ≤ '9')

/-- Punctuation that connects the parts of one name. -/
def connector : Ranges :=
  [(0x5F, 0x5F), (0x203F, 0x2040), (0x2054, 0x2054), (0xFE33, 0xFE34), (0xFE4D, 0xFE4F),
   (0xFF3F, 0xFF3F)]

/-- The two invisible characters that join or keep apart their neighbours. -/
def joinControl : Ranges :=
  [(0x200C, 0x200D)]

/-- The character may stand in a name. -/
def isWord (c : Char) : Bool :=
  if c.toNat < 0x80 then isLatinAlphanumeric c || c == '_'
  else alphabetic.contains c || mark.contains c || decimalDigit.contains c ||
    connector.contains c || joinControl.contains c

/-- The character is a letter or a number. -/
def isAlphanumeric (c : Char) : Bool :=
  if c.toNat < 0x80 then isLatinAlphanumeric c
  else alphabetic.contains c || decimalDigit.contains c || otherNumber.contains c ||
    alphabeticAdded.contains c || decimalDigitAdded.contains c

end HamlTree.Text
