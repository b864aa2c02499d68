/-!
Hexadecimal digits: reading four of them as a code unit and writing a number with them.
-/

namespace QueryPlanner.Text

def hexDigit? (c : Char) : Option Nat :=
  if '0' ≤ c ∧ c ≤ '9' then some (c.toNat - '0'.toNat)
  else if 'a' ≤ c ∧ c ≤ 'f' then some (c.toNat - 'a'.toNat + 10)
  else if 'A' ≤ c ∧ c ≤ 'F' then some (c.toNat - 'A'.toNat + 10)
  else none

def codeUnit? (a b c d : Char) : Option Nat := do
  let a ← hexDigit? a
  let b ← hexDigit? b
  let c ← hexDigit? c
  let d ← hexDigit? d
  return ((a * 16 + b) * 16 + c) * 16 + d

/-- The code unit written at the front of a text, and what follows its four digits. -/
def readCodeUnit? : List Char → Option (Nat × List Char)
  | a :: b :: c :: d :: rest => (codeUnit? a b c d).map fun unit => (unit, rest)
  | _ => none

theorem length_of_readCodeUnit? {text rest : List Char} {unit : Nat}
    (found : readCodeUnit? text = some (unit, rest)) : rest.length + 4 = text.length := by
  match text, found with
  | a :: b :: c :: d :: tail, found =>
      obtain ⟨_, _, equality⟩ := Option.map_eq_some_iff.mp found
      cases equality
      rfl

def lowerHex (n : Nat) : List Char :=
  Nat.toDigits 16 n

/-- A number in upper-case hexadecimal digits, at least four of them. -/
def upperHex (n : Nat) : List Char :=
  let digits := (Nat.toDigits 16 n).map Char.toUpper
  List.replicate (4 - digits.length) '0' ++ digits

def isHighSurrogate (unit : Nat) : Bool :=
  0xD800 ≤ unit && unit ≤ 0xDBFF

def isLowSurrogate (unit : Nat) : Bool :=
  0xDC00 ≤ unit && unit ≤ 0xDFFF

def surrogatePair (high low : Nat) : Nat :=
  0x10000 + (high - 0xD800) * 0x400 + (low - 0xDC00)

end QueryPlanner.Text
