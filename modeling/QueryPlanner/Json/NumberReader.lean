import QueryPlanner.Json.Fault
import QueryPlanner.Json.Value

/-!
Reading JSON numbers.

Whole numbers that fit 64 bits are kept as they are.  Any other number is read from its leading
digits, as many as fit 64 bits, and a power of ten; the digits are turned into a floating-point
number first, which is then multiplied or divided by the power.
-/

namespace QueryPlanner.Json

open QueryPlanner.Number QueryPlanner.Text

/-- Adds digits to a number as long as the result fits 64 bits.  The digits left over begin with
the first that does not fit. -/
def appendDigits (number : Nat) : List Char → Nat × List Char
  | [] => (number, [])
  | digit :: digits =>
      let longer := number * 10 + (digit.toNat - '0'.toNat)
      if longer < 2 ^ 64 then appendDigits longer digits else (number, digit :: digits)

/-- A number divided by a power of ten.  Powers beyond `10 ^ 308` are divided by in steps, each of
them rounded. -/
def divideByPower (x : Binary64) (power : Nat) : Binary64 :=
  if power ≤ 308 then x.div (powerOfTen power)
  else if x.isZero then x
  else divideByPower (x.div (powerOfTen 308)) (power - 308)
termination_by power

/-- A whole number times a power of ten, unless it is too large. -/
def scale? (number : Nat) (power : Int) : Option Binary64 :=
  let x := Binary64.ofRatio false number 1
  if power < 0 then some (divideByPower x power.natAbs)
  else if 308 < power then if x.isZero then some x else none
  else
    let scaled := x.mul (powerOfTen power.natAbs)
    if scaled.isFinite then some scaled else none

/-- The digits of an exponent as a number.  When it exceeds 31 bits, the digits after the place
where it does are given instead. -/
def readExponent (number : Nat) : List Char → Except (List Char) Nat
  | [] => .ok number
  | digit :: digits =>
      let longer := number * 10 + (digit.toNat - '0'.toNat)
      if longer < 2 ^ 31 then readExponent longer digits else .error digits

def withSign (negative : Bool) (x : Binary64) : Number :=
  .float (if negative then x.neg else x)

def finishNumber (negative : Bool) (number : Nat) (power : Int) (rest : List Char) :
    Except Misread (Number × List Char) :=
  match scale? number power with
  | some x => .ok (withSign negative x, rest)
  | none => .error (.here .numberOutOfRange rest)

def readPower (negative : Bool) (number : Nat) (power : Int) (text : List Char) :
    Except Misread (Number × List Char) :=
  let (negativePower, text) := splitSign text
  let (digits, rest) := spanDigits text
  match digits, text with
  | [], [] => .error (.here .endInValue [])
  | [], _ :: _ => .error (.ahead .invalidNumber text)
  | _ :: _, _ =>
      match readExponent 0 digits with
      | .ok exponent =>
          finishNumber negative number
            (if negativePower then power - exponent else power + exponent) rest
      | .error unread =>
          if number = 0 ∨ negativePower then
            .ok (withSign negative (.ofRatio false 0 1), rest)
          else .error (.here .numberOutOfRange (unread ++ rest))

/-- The end of a number after its digits, where an exponent may stand. -/
def readTail (negative : Bool) (number : Nat) (power : Int) (text : List Char) :
    Except Misread (Number × List Char) :=
  match text with
  | 'e' :: rest => readPower negative number power rest
  | 'E' :: rest => readPower negative number power rest
  | _ => finishNumber negative number power text

def readFraction (negative : Bool) (number : Nat) (power : Int) (text : List Char) :
    Except Misread (Number × List Char) :=
  let (digits, rest) := spanDigits text
  match digits, text with
  | [], [] => .error (.ahead .endInValue text)
  | [], _ :: _ => .error (.ahead .invalidNumber text)
  | _ :: _, _ =>
      let (longer, dropped) := appendDigits number digits
      readTail negative longer (power - (digits.length - dropped.length : Nat)) rest

/-- The whole number of given digits, if it is kept as one: minus zero is not. -/
def wholeNumber? (negative : Bool) (number : Nat) : Option Number :=
  if negative then
    if number = 0 then none else (toInt64? (-(number : Int))).map .negative
  else some (.unsigned number.toUInt64)

/-- The rest of a number after the digits of its whole part.  The digits that did not fit count as
powers of ten. -/
def readAfterWhole (negative : Bool) (digits rest : List Char) :
    Except Misread (Number × List Char) :=
  let (number, dropped) := appendDigits 0 digits
  match rest with
  | '.' :: rest => readFraction negative number dropped.length rest
  | _ =>
      let whole? := if dropped = [] then wholeNumber? negative number else none
      match rest, whole? with
      | 'e' :: _, _ => readTail negative number dropped.length rest
      | 'E' :: _, _ => readTail negative number dropped.length rest
      | _, some whole => .ok (whole, rest)
      | _, none => finishNumber negative number dropped.length rest

def readNumber (negative : Bool) (text : List Char) : Except Misread (Number × List Char) :=
  match text with
  | [] => .error (.here .endInValue [])
  | '0' :: rest =>
      match rest with
      | c :: _ =>
          if c.isDigit then .error (.ahead .invalidNumber rest)
          else readAfterWhole negative ['0'] rest
      | [] => readAfterWhole negative ['0'] rest
  | _ =>
      let (digits, rest) := spanDigits text
      if digits = [] then .error (.ahead .invalidNumber text)
      else readAfterWhole negative digits rest

end QueryPlanner.Json
