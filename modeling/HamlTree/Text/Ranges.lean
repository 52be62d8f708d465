/-!
# Text.Ranges -- sets of characters as sorted code point intervals

A property of the Unicode Character Database covers a few hundred runs of code points. A `Ranges`
lists those runs in ascending order, both ends included, and `Ranges.contains` asks whether a
character lies in one of them. The properties themselves stand in modules of their own.
-/

set_option autoImplicit false

namespace HamlTree.Text

/-- Runs of code points, ascending and disjoint, with both ends included. -/
abbrev Ranges := List (Nat × Nat)

namespace Ranges

/-- The character lies in one of the runs. -/
def contains (ranges : Ranges) (c : Char) : Bool :=
  ranges.any fun run => run.1 ≤ c.toNat && c.toNat ≤ run.2

end Ranges

end HamlTree.Text
