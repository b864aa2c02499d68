/-!
Binary floating-point numbers of 64 bits, as exact mathematics.

The finite magnitudes are numbered in increasing order, so that rounding is the choice of an
index and infinity is the first index that no magnitude has.
-/

namespace QueryPlanner.Number

def finiteCount : Nat := 0x7FF * Nat.pow 2 52

inductive Binary64 where
  | nan
  | infinite (negative : Bool)
  /-- A finite number by its sign and the index of its magnitude. -/
  | finite (negative : Bool) (magnitude : Fin finiteCount)
  deriving DecidableEq

/-- The quotient of two numbers, rounded to the nearest whole number; a half goes to the even
neighbour. -/
def roundHalfEven (numerator denominator : Nat) : Nat :=
  let quotient := numerator / denominator
  let remainder := numerator % denominator
  if 2 * remainder < denominator then quotient
  else if denominator < 2 * remainder then quotient + 1
  else quotient + quotient % 2

/-- The numerator and denominator of a quotient divided by a power of two. -/
def unscale (numerator denominator : Nat) (exponent : Int) : Nat × Nat :=
  if exponent < 0 then (numerator * Nat.pow 2 exponent.natAbs, denominator)
  else (numerator, denominator * Nat.pow 2 exponent.natAbs)

/-- The exponent of the last place that a magnitude near the quotient keeps: 53 places, unless the
quotient is so small that the least place of all is reached first. -/
def lastPlace (numerator denominator : Nat) : Int :=
  if numerator = 0 then -1074
  else
    let guess := max (-1074) ((numerator.log2 : Int) - denominator.log2 - 53)
    let (scaled, unit) := unscale numerator denominator guess
    if scaled < Nat.pow 2 53 * unit then guess else guess + 1

/-- The index of the magnitude nearest to a quotient.  Where the quotient is too large for any
magnitude, the index is one that no magnitude has. -/
def nearestIndex (numerator denominator : Nat) : Nat :=
  let place := lastPlace numerator denominator
  let (scaled, unit) := unscale numerator denominator place
  (place + 1074).toNat * Nat.pow 2 52 + roundHalfEven scaled unit

namespace Binary64

/-- The number with a given sign whose magnitude is nearest to a quotient. -/
def ofRatio (negative : Bool) (numerator denominator : Nat) : Binary64 :=
  let index := nearestIndex numerator denominator
  if inRange : index < finiteCount then .finite negative ⟨index, inRange⟩ else .infinite negative

/-- The whole number that a magnitude is a multiple of its last place by. -/
def significand (magnitude : Fin finiteCount) : Nat :=
  if magnitude.val < Nat.pow 2 52 then magnitude.val else Nat.pow 2 52 + magnitude.val % Nat.pow 2 52

def exponent (magnitude : Fin finiteCount) : Int :=
  if magnitude.val < Nat.pow 2 52 then -1074 else (magnitude.val / Nat.pow 2 52 : Nat) - 1075

def ratio (magnitude : Fin finiteCount) : Nat × Nat :=
  if exponent magnitude < 0 then (significand magnitude, Nat.pow 2 (exponent magnitude).natAbs)
  else (significand magnitude * Nat.pow 2 (exponent magnitude).natAbs, 1)

/-- The product of two numbers: the exact one, rounded. -/
def mul : Binary64 → Binary64 → Binary64
  | .finite leftNegative left, .finite rightNegative right =>
      ofRatio (leftNegative ^^ rightNegative)
        ((ratio left).1 * (ratio right).1) ((ratio left).2 * (ratio right).2)
  | .infinite leftNegative, .infinite rightNegative => .infinite (leftNegative ^^ rightNegative)
  | .infinite leftNegative, .finite rightNegative right =>
      if right.val = 0 then .nan else .infinite (leftNegative ^^ rightNegative)
  | .finite leftNegative left, .infinite rightNegative =>
      if left.val = 0 then .nan else .infinite (leftNegative ^^ rightNegative)
  | _, _ => .nan

/-- The quotient of two numbers: the exact one, rounded. -/
def div : Binary64 → Binary64 → Binary64
  | .finite leftNegative left, .finite rightNegative right =>
      if right.val = 0 then
        if left.val = 0 then .nan else .infinite (leftNegative ^^ rightNegative)
      else
        ofRatio (leftNegative ^^ rightNegative)
          ((ratio left).1 * (ratio right).2) ((ratio left).2 * (ratio right).1)
  | .infinite leftNegative, .finite rightNegative _ => .infinite (leftNegative ^^ rightNegative)
  | .finite leftNegative _, .infinite rightNegative => ofRatio (leftNegative ^^ rightNegative) 0 1
  | _, _ => .nan

def neg : Binary64 → Binary64
  | .nan => .nan
  | .infinite negative => .infinite !negative
  | .finite negative magnitude => .finite (!negative) magnitude

def isZero : Binary64 → Bool
  | .finite _ magnitude => magnitude.val = 0
  | _ => false

/-- Whether a number is neither infinite nor the result of an undefined operation. -/
def isFinite : Binary64 → Bool
  | .finite _ _ => true
  | _ => false

end Binary64

end QueryPlanner.Number
