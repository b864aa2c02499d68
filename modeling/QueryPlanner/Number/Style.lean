import QueryPlanner.Number.Shortest

/-!
How floating-point numbers are written: the digits of the shortest decimal, with a point among or
beside them where the number is of moderate size, and with a power of ten otherwise.
-/

namespace QueryPlanner.Number

structure Style where
  /-- The least exponent of the leading digit that is written without a power of ten. -/
  least : Int
  /-- The first larger exponent that is written with a power of ten again. -/
  limit : Int
  /-- Whether a power of ten that is not negative has a plus sign. -/
  plusSign : Bool
  tie : Tie

/-- Digits with a point in them and at least one digit on each side of it.  The first `point`
digits stand before the point; zeros fill the places that the digits do not reach. -/
def withPoint (digits : List Char) (point : Int) : List Char :=
  if point ≤ 0 then
    '0' :: '.' :: List.replicate point.natAbs '0' ++ digits
  else
    let whole := digits.take point.natAbs
    let fraction := digits.drop point.natAbs
    whole ++ List.replicate (point.natAbs - whole.length) '0' ++
      '.' :: (if fraction = [] then ['0'] else fraction)

/-- Digits with a point after the first one, if there are more, and a power of ten. -/
def withPower (style : Style) (digits : List Char) (power : Int) : List Char :=
  let sign := if power < 0 then ['-'] else if style.plusSign then ['+'] else []
  let mantissa :=
    match digits with
    | first :: second :: rest => first :: '.' :: second :: rest
    | _ => digits
  mantissa ++ 'e' :: sign ++ Nat.toDigits 10 power.natAbs

def Style.writeDecimal (style : Style) (decimal : Decimal) : List Char :=
  let digits := Nat.toDigits 10 decimal.digits
  let point := decimal.exponent + digits.length
  if decimal.digits = 0 ∨ (style.least ≤ point - 1 ∧ point - 1 < style.limit) then
    withPoint digits point
  else withPower style digits (point - 1)

def Style.write (style : Style) : Binary64 → List Char
  | .nan => ['N', 'a', 'N']
  | .infinite negative => (if negative then ['-'] else []) ++ ['i', 'n', 'f']
  | .finite negative magnitude =>
      (if negative then ['-'] else []) ++ style.writeDecimal (shortest style.tie magnitude)

end QueryPlanner.Number
