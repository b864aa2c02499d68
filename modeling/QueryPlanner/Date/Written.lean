import QueryPlanner.Date.Calendar

/-!
The written form of a date and time: `2024-03-01T12:30:15` with a fraction of a second of three,
six or nine digits where there is one.
-/

namespace QueryPlanner.Date

def zeroPadded (width n : Nat) : List Char :=
  (Nat.toDigits 10 n).leftpad width '0'

/-- A year in at least four digits.  Years that four digits do not reach carry a sign. -/
def writeYear (year : Int) : List Char :=
  if year < 0 then '-' :: zeroPadded 4 year.natAbs
  else if 9999 < year then '+' :: zeroPadded 4 year.natAbs
  else zeroPadded 4 year.natAbs

/-- A fraction of a second in the fewest of three, six and nine digits that give it exactly. -/
def writeFraction (nanosecond : Nat) : List Char :=
  if nanosecond = 0 then []
  else if nanosecond % 1000000 = 0 then '.' :: zeroPadded 3 (nanosecond / 1000000)
  else if nanosecond % 1000 = 0 then '.' :: zeroPadded 6 (nanosecond / 1000)
  else '.' :: zeroPadded 9 nanosecond

def DateTime.write (moment : DateTime) : List Char :=
  writeYear moment.day.year ++
    '-' :: zeroPadded 2 moment.day.month ++
    '-' :: zeroPadded 2 moment.day.day ++
    'T' :: zeroPadded 2 moment.clock.hour ++
    ':' :: zeroPadded 2 moment.clock.minute ++
    ':' :: zeroPadded 2 moment.clock.second ++
    writeFraction moment.clock.nanosecond

end QueryPlanner.Date
