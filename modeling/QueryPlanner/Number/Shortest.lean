import QueryPlanner.Number.Decimal

/-!
The shortest decimal that reads back as a given floating-point number.

On the grid of decimals with a given number of digits, the two neighbours of the number are
tried.  The first grid on which one of them reads back gives the answer.
-/

namespace QueryPlanner.Number

/-- Which of two equally near decimals is taken. -/
inductive Tie where
  | up
  /-- The one whose last digit is even. -/
  | even
  deriving DecidableEq

/-- The exponent of ten of the leading digit of a positive quotient. -/
def leadingPlace (numerator denominator : Nat) : Int :=
  if denominator ≤ numerator then (digitCount (numerator / denominator) : Int) - 1
  else -(digitCount ((denominator + numerator - 1) / numerator - 1) : Int)

/-- A decimal without the zeros at the end of its digits.  The bound is the number of zeros that
are looked for. -/
def Decimal.stripZeros : Nat → Decimal → Decimal
  | 0, decimal => decimal
  | bound + 1, decimal =>
      if decimal.digits ≠ 0 ∧ decimal.digits % 10 = 0 then
        stripZeros bound ⟨decimal.digits / 10, decimal.exponent + 1⟩
      else decimal

/-- The two decimals around a quotient on the grid of one decimal place, the preferred one
first: the nearer one, or of two equally near ones that which the rule takes. -/
def neighbours (tie : Tie) (numerator denominator : Nat) (place : Int) : List Decimal :=
  let (scaled, unit) :=
    if place < 0 then (numerator * Nat.pow 10 place.natAbs, denominator)
    else (numerator, denominator * Nat.pow 10 place.natAbs)
  let below := scaled / unit
  let remainder := scaled % unit
  let upFirst :=
    if 2 * remainder = unit then tie = .up ∨ below % 2 = 1 else unit < 2 * remainder
  if upFirst then [⟨below + 1, place⟩, ⟨below, place⟩] else [⟨below, place⟩, ⟨below + 1, place⟩]

/-- The first decimal that reads back as a magnitude, on the grids of `count` and more digits up
to 17, where each magnitude has a decimal of its own. -/
def searchShortest (tie : Tie) (magnitude : Fin finiteCount) : Nat → Option Decimal
  | 0 => none
  | left + 1 =>
      let (numerator, denominator) := Binary64.ratio magnitude
      let place := leadingPlace numerator denominator - (16 - left : Nat)
      let found := (neighbours tie numerator denominator place).find? fun decimal =>
        decimal.toBinary false = .finite false magnitude
      match found with
      | some decimal => some (decimal.stripZeros 17)
      | none => searchShortest tie magnitude left

def exactDecimal (magnitude : Fin finiteCount) : Decimal :=
  let (numerator, denominator) := Binary64.ratio magnitude
  -- The denominator is a power of two, so as many tens as it has twos make the quotient whole.
  ⟨numerator * Nat.pow 10 denominator.log2 / denominator, -(denominator.log2 : Int)⟩

/-- The decimal of the fewest digits that reads back as a magnitude. -/
def shortest (tie : Tie) (magnitude : Fin finiteCount) : Decimal :=
  if magnitude.val = 0 then ⟨0, 0⟩
  else (searchShortest tie magnitude 17).getD (exactDecimal magnitude)

end QueryPlanner.Number
