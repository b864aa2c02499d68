import QueryPlanner.Date.Written
import QueryPlanner.Date.Reading
import QueryPlanner.Number.Integer
import QueryPlanner.Toml.Strings
import QueryPlanner.Toml.Value

/-!
Reading the numbers, dates and truth values of TOML text.
-/

namespace QueryPlanner.Toml

open QueryPlanner.Date QueryPlanner.Number QueryPlanner.Text

/-- Digits of some kind with single underscores between them, and what follows them.  The
underscores are left out. -/
def spanGrouped (isDigit : Char → Bool) : List Char → Option (List Char × List Char)
  | [] => none
  | [c] => if isDigit c then some ([c], []) else none
  | c :: next :: rest =>
      if isDigit c then
        if next = '_' then
          (spanGrouped isDigit rest).map fun (digits, left) => (c :: digits, left)
        else if isDigit next then
          (spanGrouped isDigit (next :: rest)).map fun (digits, left) => (c :: digits, left)
        else some ([c], next :: rest)
      else none

def ofBase (base : Nat) (digits : List Char) : Nat :=
  digits.foldl (fun number c => number * base + (hexDigit? c).getD 0) 0

/-- A whole number in base sixteen, eight or two. -/
def readPrefixed? (text : List Char) : Option (List Char) :=
  let read (base : Nat) (rest : List Char) : Option (List Char) := do
    let isDigit (c : Char) : Bool := (hexDigit? c).any (· < base)
    let (digits, rest) ← spanGrouped isDigit rest
    if ofBase base digits < Nat.pow 2 63 then some rest else none
  match text with
  | '0' :: 'x' :: rest => read 16 rest
  | '0' :: 'o' :: rest => read 8 rest
  | '0' :: 'b' :: rest => read 2 rest
  | _ => none

/-- The whole part of a decimal number: a zero alone, or digits that do not begin with one. -/
def readWhole? (text : List Char) : Option (List Char × List Char) :=
  match text with
  | '0' :: rest => some (['0'], rest)
  | _ => spanGrouped Char.isDigit text

def readFractionPart? (text : List Char) : Option (List Char × List Char) :=
  match text with
  | '.' :: rest => (spanGrouped Char.isDigit rest).map fun (digits, rest) => ('.' :: digits, rest)
  | _ => some ([], text)

def readPowerPart? (text : List Char) : Option (List Char × List Char) :=
  match text with
  | [] => some ([], [])
  | marker :: rest =>
      if marker = 'e' ∨ marker = 'E' then do
        let (negative, rest) := splitSign rest
        let (digits, rest) ← spanGrouped Char.isDigit rest
        return ('e' :: (if negative then ['-'] else []) ++ digits, rest)
      else some ([], text)

/-- What follows a decimal number.  A whole number has to fit 64 bits, and a number with a
fraction or a power of ten may not be too large upward. -/
def readDecimal? (text : List Char) : Option (List Char) := do
  let (negative, unsigned) := splitSign text
  let (whole, rest) ← readWhole? unsigned
  let (fraction, rest) ← readFractionPart? rest
  let (power, rest) ← readPowerPart? rest
  if fraction = [] ∧ power = [] then
    let n : Int := ofDigits whole
    (toInt64? (if negative then -n else n)).map fun _ => rest
  else
    let x ← readBinary64? ((if negative then ['-'] else []) ++ whole ++ fraction ++ power)
    if x = .infinite false then none else some rest

def afterWord? : (word text : List Char) → Option (List Char)
  | [], text => some text
  | _, [] => none
  | letter :: word, c :: rest => if c = letter then afterWord? word rest else none

/-- What follows one of the words for numbers without digits. -/
def readNumberWord? (text : List Char) : Option (List Char) :=
  let unsigned := (splitSign text).2
  afterWord? ['i', 'n', 'f'] unsigned <|> afterWord? ['n', 'a', 'n'] unsigned

/-- A fraction of a second in normal form: no zeros at its end, and nothing if there is none. -/
def writeNanosecond (nanosecond : Nat) : List Char :=
  if nanosecond = 0 then []
  else '.' :: ((zeroPadded 9 nanosecond).reverse.dropWhile (· = '0')).reverse

def readDay? (text : List Char) : Option (List Char × List Char) := do
  let (year, rest) ← readExactly? 4 text
  let rest ← after? '-' rest
  let (month, rest) ← readExactly? 2 rest
  let rest ← after? '-' rest
  let (day, rest) ← readExactly? 2 rest
  let _ ← Day.of? year month day
  return (text.take 10, rest)

/-- A time of day at the front of a text, in normal form. -/
def readClock? (text : List Char) : Option (List Char × List Char) := do
  let (hour, rest) ← readExactly? 2 text
  let rest ← after? ':' rest
  let (minute, rest) ← readExactly? 2 rest
  let rest ← after? ':' rest
  let (second, rest) ← readExactly? 2 rest
  let (nanosecond, rest) ← Date.readFraction? rest
  let _ ← Clock.of? hour minute second nanosecond
  return (text.take 8 ++ writeNanosecond nanosecond, rest)

/-- The offset of a time at the front of a text, in normal form, if there is one.  A zero offset
has a plus sign. -/
def readZone? (text : List Char) : Option (List Char × List Char) :=
  match text with
  | [] => some ([], [])
  | sign :: rest =>
      if sign = 'Z' ∨ sign = 'z' then some (['Z'], rest)
      else if sign = '+' ∨ sign = '-' then do
        let (hours, rest) ← readExactly? 2 rest
        let rest ← after? ':' rest
        let (minutes, rest) ← readExactly? 2 rest
        if hours < 24 ∧ minutes < 60 then
          let shown := if hours = 0 ∧ minutes = 0 then '+' else sign
          return (shown :: (text.drop 1).take 5, rest)
        else none
      else some ([], text)

/-- A time and perhaps an offset after the day at the front of a date, in normal form. -/
def readAfterDay? (text : List Char) : Option (List Char × List Char) :=
  match text with
  | [] => some ([], [])
  | separator :: rest =>
      if separator = 'T' ∨ separator = 't' ∨ separator = ' ' then
        match readClock? rest with
        | some (clock, rest) =>
            (readZone? rest).map fun (zone, rest) => ('T' :: clock ++ zone, rest)
        | none => some ([], text)
      else some ([], text)

/-- A date, a time or both at the front of a text, in normal form. -/
def readMoment? (text : List Char) : Option (List Char × List Char) :=
  match readDay? text with
  | some (day, rest) => (readAfterDay? rest).map fun (time, rest) => (day ++ time, rest)
  | none => readClock? text

/-- A value that is neither a string nor has parts. -/
def readScalar? (text : List Char) : Option (Value × List Char) :=
  (afterWord? ['t', 'r', 'u', 'e'] text).map (fun rest => (.boolean true, rest))
    <|> (afterWord? ['f', 'a', 'l', 's', 'e'] text).map (fun rest => (.boolean false, rest))
    <|> (readMoment? text).map (fun (moment, rest) => (.dateTime (String.ofList moment), rest))
    <|> (readPrefixed? text).map (fun rest => (.number, rest))
    <|> (readNumberWord? text).map (fun rest => (.number, rest))
    <|> (readDecimal? text).map (fun rest => (.number, rest))

end QueryPlanner.Toml
