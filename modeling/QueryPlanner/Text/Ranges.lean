/-!
Membership in a set of code points that is given as a list of ranges in increasing order.
-/

namespace QueryPlanner.Text

def inRanges (code : Nat) : List (Nat × Nat) → Bool
  | [] => false
  | (first, last) :: rest =>
      if code < first then false
      else if code ≤ last then true
      else inRanges code rest

end QueryPlanner.Text
