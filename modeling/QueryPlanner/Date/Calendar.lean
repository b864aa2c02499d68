/-!
Dates of the Gregorian calendar, continued to all years, and times of day.

Both types hold valid values only.  A minute may have a second numbered 60, which is how a leap
second is kept.
-/

namespace QueryPlanner.Date

def isLeapYear (year : Int) : Bool :=
  year % 4 = 0 && (year % 100 ≠ 0 || year % 400 = 0)

def daysInMonth (year : Int) (month : Nat) : Nat :=
  if month = 2 then if isLeapYear year then 29 else 28
  else if month = 4 ∨ month = 6 ∨ month = 9 ∨ month = 11 then 30
  else 31

def firstYear : Int := -262143

def lastYear : Int := 262142

structure Day where
  year : Int
  month : Nat
  day : Nat
  year_inRange : firstYear ≤ year ∧ year ≤ lastYear
  month_inRange : 1 ≤ month ∧ month ≤ 12
  day_inRange : 1 ≤ day ∧ day ≤ daysInMonth year month
  deriving DecidableEq

structure Clock where
  hour : Nat
  minute : Nat
  /-- The second of the minute, where 60 is a leap second. -/
  second : Nat
  nanosecond : Nat
  hour_lt : hour < 24
  minute_lt : minute < 60
  second_le : second ≤ 60
  nanosecond_lt : nanosecond < 1000000000
  deriving DecidableEq

structure DateTime where
  day : Day
  clock : Clock
  deriving DecidableEq

def Day.of? (year : Int) (month day : Nat) : Option Day :=
  if valid : (firstYear ≤ year ∧ year ≤ lastYear) ∧ (1 ≤ month ∧ month ≤ 12) ∧
      (1 ≤ day ∧ day ≤ daysInMonth year month) then
    some ⟨year, month, day, valid.1, valid.2.1, valid.2.2⟩
  else none

def Day.next? (day : Day) : Option Day :=
  Day.of? day.year day.month (day.day + 1)
    <|> Day.of? day.year (day.month + 1) 1
    <|> Day.of? (day.year + 1) 1 1

def Day.previous? (day : Day) : Option Day :=
  Day.of? day.year day.month (day.day - 1)
    <|> Day.of? day.year (day.month - 1) (daysInMonth day.year (day.month - 1))
    <|> Day.of? (day.year - 1) 12 31

def Clock.of? (hour minute second nanosecond : Nat) : Option Clock :=
  if valid : hour < 24 ∧ minute < 60 ∧ second ≤ 60 ∧ nanosecond < 1000000000 then
    some ⟨hour, minute, second, nanosecond, valid.1, valid.2.1, valid.2.2.1, valid.2.2.2⟩
  else none

/-- The date and time that lies a number of minutes earlier, for less than a day either way.
Seconds stay as they are, so a leap second stays one. -/
def DateTime.earlier? (moment : DateTime) (minutes : Int) : Option DateTime := do
  let total : Int := (moment.clock.hour * 60 + moment.clock.minute : Nat) - minutes
  let day ←
    if total < 0 then moment.day.previous?
    else if 1440 ≤ total then moment.day.next?
    else some moment.day
  let ofDay := (total % 1440).toNat
  let clock ← Clock.of? (ofDay / 60) (ofDay % 60) moment.clock.second moment.clock.nanosecond
  return ⟨day, clock⟩

end QueryPlanner.Date
