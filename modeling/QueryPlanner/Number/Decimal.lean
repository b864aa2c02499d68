import QueryPlanner.Number.Binary64

/-!
Decimal numerals of floating-point numbers and the binary number that each one denotes.
-/

namespace QueryPlanner.Number

/-- A magnitude written in decimal: a whole number times a power of ten. -/
structure Decimal where
  digits : Nat
  exponent : Int

def digitCount (n : Nat) : Nat :=
  (Nat.toDigits 10 n).length

namespace Decimal

def ratio (decimal : Decimal) : Nat × Nat :=
  if decimal.exponent < 0 then (decimal.digits, Nat.pow 10 decimal.exponent.natAbs)
  else (decimal.digits * Nat.pow 10 decimal.exponent.natAbs, 1)

/-- The floating-point number nearest to a decimal.  Decimals from `10 ^ 309` on are beyond every
finite number, and those below `10 ^ (-324)` are nearer to zero than to anything else; both are
settled without computing the power. -/
def toBinary (negative : Bool) (decimal : Decimal) : Binary64 :=
  let size := decimal.exponent + digitCount decimal.digits
  if decimal.digits = 0 ∨ size ≤ -324 then .ofRatio negative 0 1
  else if 309 < size then .infinite negative
  else .ofRatio negative decimal.ratio.1 decimal.ratio.2

end Decimal

def powerOfTen (exponent : Nat) : Binary64 :=
  Decimal.toBinary false ⟨1, exponent⟩

/-- The digits at the front of a text and what follows them. -/
def spanDigits (text : List Char) : List Char × List Char :=
  (text.takeWhile Char.isDigit, text.dropWhile Char.isDigit)

def ofDigits (digits : List Char) : Nat :=
  Nat.ofDigitChars 10 digits 0

/-- A sign at the front of a text: whether it is a minus, and what follows it. -/
def splitSign : List Char → Bool × List Char
  | '-' :: rest => (true, rest)
  | '+' :: rest => (false, rest)
  | text => (false, text)

/-- The power of ten that the end of a numeral gives: none, or a letter, a sign and digits. -/
def readPower? : List Char → Option Int
  | [] => some 0
  | marker :: rest =>
      let (negative, digits) := splitSign rest
      if (marker = 'e' ∨ marker = 'E') ∧ digits ≠ [] ∧ digits.all Char.isDigit then
        some (if negative then -(ofDigits digits : Int) else ofDigits digits)
      else none

/-- The decimal that an unsigned numeral denotes.  It has digits before or after the point, or on
both sides, and may end in a power of ten. -/
def readDecimal? (text : List Char) : Option Decimal :=
  let (whole, rest) := spanDigits text
  let (fraction, rest) :=
    match rest with
    | '.' :: tail => spanDigits tail
    | _ => ([], rest)
  if whole = [] ∧ fraction = [] then none
  else
    (readPower? rest).map fun power =>
      ⟨ofDigits (whole ++ fraction), power - fraction.length⟩

/-- The words for the numbers that have no digits, in lower case. -/
def readWord? (negative : Bool) (text : List Char) : Option Binary64 :=
  let word := text.map Char.toLower
  if word = ['i', 'n', 'f'] ∨ word = ['i', 'n', 'f', 'i', 'n', 'i', 't', 'y'] then
    some (.infinite negative)
  else if word = ['n', 'a', 'n'] then some .nan
  else none

def readBinary64? (text : List Char) : Option Binary64 :=
  let (negative, rest) := splitSign text
  match readDecimal? rest with
  | some decimal => some (decimal.toBinary negative)
  | none => readWord? negative rest

end QueryPlanner.Number
