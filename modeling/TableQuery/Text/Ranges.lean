/-! Sets of code points given by ranges. -/

namespace TableQuery

/-- Whether a code point lies in one of the ranges; both ends of a range belong to it. -/
def inRanges (ranges : List (Nat × Nat)) (n : Nat) : Bool :=
  ranges.any fun (first, last) => first ≤ n && n ≤ last

end TableQuery
