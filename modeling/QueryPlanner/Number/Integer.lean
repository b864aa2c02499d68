import QueryPlanner.Number.Decimal

/-!
Signed whole numbers of 64 bits and their decimal numerals.
-/

namespace QueryPlanner.Number

def toInt64? (n : Int) : Option Int64 :=
  if -(Nat.pow 2 63) ≤ n ∧ n < Nat.pow 2 63 then some (Int64.ofInt n) else none

/-- The whole number that a numeral denotes: one or more digits after an optional sign. -/
def readInt? (text : List Char) : Option Int :=
  let (negative, digits) := splitSign text
  if digits ≠ [] ∧ digits.all Char.isDigit then
    some (if negative then -(ofDigits digits : Int) else ofDigits digits)
  else none

/-- The 64-bit number that a numeral denotes, if it is in range. -/
def readInt64? (text : List Char) : Option Int64 :=
  (readInt? text).bind toInt64?

def writeInt (n : Int) : List Char :=
  (if n < 0 then ['-'] else []) ++ Nat.toDigits 10 n.natAbs

end QueryPlanner.Number
