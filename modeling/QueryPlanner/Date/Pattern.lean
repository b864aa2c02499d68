import QueryPlanner.Date.Calendar
import QueryPlanner.Number.Decimal
import QueryPlanner.Text.Blank

/-!
Patterns of date texts.  A pattern is a list of pieces that are read one after the other; the
whole text has to be read, and the numbers found have to make a valid date and time.
-/

namespace QueryPlanner.Date

open QueryPlanner.Number QueryPlanner.Text

inductive Piece where
  | exactly (c : Char)
  /-- Any white space, also none. -/
  | blank
  /-- One to four digits, or a sign and any number of digits. -/
  | year
  | month
  | day
  | hour
  | minute
  | second
  /-- Nothing, or a point and the digits of a fraction of a second. -/
  | fraction

/-- The numbers found in a date text.  What a pattern does not mention is zero. -/
structure Fields where
  year : Int := 0
  month : Nat := 0
  day : Nat := 0
  hour : Nat := 0
  minute : Nat := 0
  second : Nat := 0
  nanosecond : Nat := 0

/-- The date and time that the numbers make, if they are valid. -/
def Fields.toDateTime? (fields : Fields) : Option DateTime := do
  let day ← Day.of? fields.year fields.month fields.day
  let clock ← Clock.of? fields.hour fields.minute fields.second fields.nanosecond
  return ⟨day, clock⟩

/-- A number of one digit up to `width` digits, as many as there are. -/
def readUpTo? (width : Nat) (text : List Char) : Option (Nat × List Char) :=
  let digits := (text.takeWhile Char.isDigit).take width
  if digits = [] then none else some (ofDigits digits, text.drop digits.length)

def readDigits? (text : List Char) : Option (Nat × List Char) :=
  let (digits, rest) := spanDigits text
  if digits = [] then none else some (ofDigits digits, rest)

/-- A year.  After a sign it may have any number of digits. -/
def readYear? (text : List Char) : Option (Int × List Char) :=
  match text with
  | '-' :: rest => (readDigits? rest).map fun (year, rest) => (-(year : Int), rest)
  | '+' :: rest => (readDigits? rest).map fun (year, rest) => ((year : Int), rest)
  | _ => (readUpTo? 4 text).map fun (year, rest) => ((year : Int), rest)

/-- The nanoseconds that the digits after a point stand for.  Digits after the ninth are read and
count for nothing. -/
def readNanosecond? (text : List Char) : Option (Nat × List Char) :=
  let (digits, rest) := spanDigits text
  let kept := digits.take 9
  if digits = [] then none else some (ofDigits kept * Nat.pow 10 (9 - kept.length), rest)

def readFraction? (text : List Char) : Option (Nat × List Char) :=
  match text with
  | '.' :: rest => readNanosecond? rest
  | _ => some (0, text)

/-- What one piece adds to the numbers found, and what follows it.  White space before a number is
passed over. -/
def Piece.read? (piece : Piece) (fields : Fields) (text : List Char) :
    Option (Fields × List Char) :=
  let number := readUpTo? 2 (trimStart text)
  match piece with
  | .exactly c =>
      match text with
      | head :: rest => if head = c then some (fields, rest) else none
      | [] => none
  | .blank => some (fields, trimStart text)
  | .year => (readYear? (trimStart text)).map fun (n, rest) => ({ fields with year := n }, rest)
  | .month => number.map fun (n, rest) => ({ fields with month := n }, rest)
  | .day => number.map fun (n, rest) => ({ fields with day := n }, rest)
  | .hour => number.map fun (n, rest) => ({ fields with hour := n }, rest)
  | .minute => number.map fun (n, rest) => ({ fields with minute := n }, rest)
  | .second => number.map fun (n, rest) => ({ fields with second := n }, rest)
  | .fraction => (readFraction? text).map fun (n, rest) => ({ fields with nanosecond := n }, rest)

/-- The numbers found by all pieces of a pattern, when nothing of the text is left. -/
def readPieces? : List Piece → Fields → List Char → Option Fields
  | [], fields, text => if text = [] then some fields else none
  | piece :: pieces, fields, text => do
      let (fields, rest) ← piece.read? fields text
      readPieces? pieces fields rest

def readPattern? (pattern : List Piece) (text : List Char) : Option DateTime :=
  (readPieces? pattern {} text).bind Fields.toDateTime?

end QueryPlanner.Date
