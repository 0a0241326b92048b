/-!
# Sets of characters

A set of characters is a list of ranges of code points, both ends included.
-/

namespace FlowRules

/-- Ranges of code points. -/
abbrev CharSet := List (Nat × Nat)

/-- Is the character in one of the ranges? -/
def CharSet.contains (set : CharSet) (c : Char) : Bool :=
  set.any fun (first, last) => first ≤ c.toNat && c.toNat ≤ last

end FlowRules
