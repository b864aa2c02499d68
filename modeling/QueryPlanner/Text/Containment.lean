/-!
Whether one text occurs inside another.
-/

namespace QueryPlanner.Text

def hasPart (part : List Char) : List Char → Bool
  | [] => part.isEmpty
  | c :: rest => part.isPrefixOf (c :: rest) || hasPart part rest

end QueryPlanner.Text
