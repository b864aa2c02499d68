import QueryPlanner.Date.Pattern

/-!
The date and time that a text gives: an internet timestamp (RFC 3339), whose offset is taken off,
or the first of a list of patterns that fits.
-/

namespace QueryPlanner.Date

open QueryPlanner.Number QueryPlanner.Text

def readExactly? (width : Nat) (text : List Char) : Option (Nat × List Char) :=
  let digits := text.take width
  if digits.length = width ∧ digits.all Char.isDigit then
    some (ofDigits digits, text.drop width)
  else none

def after? (c : Char) : List Char → Option (List Char)
  | head :: rest => if head = c then some rest else none
  | [] => none

/-- The offset at the end of a timestamp in minutes: `Z`, or a sign, hours up to 23 and
minutes. -/
def readOffset? (text : List Char) : Option Int :=
  match text with
  | [] => none
  | sign :: rest =>
      if (sign = 'Z' ∨ sign = 'z') ∧ rest = [] then some 0
      else if sign = '+' ∨ sign = '-' ∨ sign = '\u2212' then do
        let (hours, rest) ← readExactly? 2 rest
        let rest ← after? ':' rest
        let (minutes, rest) ← readExactly? 2 rest
        if rest = [] ∧ hours < 24 ∧ minutes < 60 then
          let offset : Int := (hours * 60 + minutes : Nat)
          return if sign = '+' then offset else -offset
        else none
      else none

/-- The moment that an internet timestamp gives, at offset zero. -/
def readTimestamp? (text : List Char) : Option DateTime := do
  let (year, rest) ← readExactly? 4 text
  let rest ← after? '-' rest
  let (month, rest) ← readExactly? 2 rest
  let rest ← after? '-' rest
  let (day, rest) ← readExactly? 2 rest
  let rest ← after? 'T' rest <|> after? 't' rest <|> after? ' ' rest
  let (hour, rest) ← readExactly? 2 rest
  let rest ← after? ':' rest
  let (minute, rest) ← readExactly? 2 rest
  let rest ← after? ':' rest
  let (second, rest) ← readExactly? 2 rest
  let (nanosecond, rest) ← readFraction? rest
  let offset ← readOffset? rest
  let moment ← Fields.toDateTime? ⟨year, month, day, hour, minute, second, nanosecond⟩
  moment.earlier? offset

def yearFirst (separator : Char) : List Piece :=
  [.year, .exactly separator, .month, .exactly separator, .day]

def monthFirst : List Piece :=
  [.month, .exactly '/', .day, .exactly '/', .year]

def toMinute : List Piece :=
  [.hour, .exactly ':', .minute]

def toSecond : List Piece :=
  toMinute ++ [.exactly ':', .second]

/-- The patterns in the order in which they are tried: those with a time, then those with a date
only, which stand for midnight. -/
def patterns : List (List Piece) := [
  yearFirst '-' ++ .exactly 'T' :: toSecond ++ [.fraction],
  yearFirst '-' ++ .blank :: toSecond ++ [.fraction],
  yearFirst '-' ++ .exactly 'T' :: toMinute,
  yearFirst '-' ++ .blank :: toMinute,
  monthFirst ++ .blank :: toSecond,
  monthFirst ++ .blank :: toMinute,
  yearFirst '-',
  yearFirst '/',
  monthFirst]

/-- The readers of date texts in the order in which they are tried. -/
def readers : List (List Char → Option DateTime) :=
  readTimestamp? :: patterns.map readPattern?

/-- The date and time that a text gives, white space around it aside. -/
def readDateTime? (text : List Char) : Option DateTime :=
  readers.findSome? fun reader => reader (trim text)

end QueryPlanner.Date
