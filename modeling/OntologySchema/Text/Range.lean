/-!
# Ranges of code points

A property of characters is a list of ranges of code points, in increasing order and apart from each
other, so that the search for a number can stop at the first range that begins after it.
-/

namespace OntologySchema.Text

/-- Whether a number lies in one of the increasing ranges. -/
def inRanges (n : Nat) : List (Nat × Nat) → Bool
  | [] => false
  | (first, last) :: rest => if n < first then false else n ≤ last || inRanges n rest

end OntologySchema.Text
