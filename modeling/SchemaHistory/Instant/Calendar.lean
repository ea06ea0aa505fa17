/-!
The proleptic Gregorian calendar: days counted from 1 January 1970, and back.
-/

namespace SchemaHistory

set_option autoImplicit false

/-- A calendar day. Months and days count from one. -/
structure Date where
  year : Int
  month : Nat
  day : Nat
  deriving DecidableEq

namespace Date

def isLeapYear (year : Int) : Bool :=
  year % 4 = 0 ∧ (year % 100 ≠ 0 ∨ year % 400 = 0)

def monthLength (year : Int) (month : Nat) : Nat :=
  if month = 2 then if isLeapYear year then 29 else 28
  else if month = 4 ∨ month = 6 ∨ month = 9 ∨ month = 11 then 30
  else 31

def leastYear : Int := -262143

def greatestYear : Int := 262142

def isValid (date : Date) : Bool :=
  leastYear ≤ date.year ∧ date.year ≤ greatestYear ∧ 1 ≤ date.month ∧ date.month ≤ 12 ∧
    1 ≤ date.day ∧ date.day ≤ monthLength date.year date.month

/-- Days from 1 January 1970. Years are counted from March, so that the leap day ends one, and a
cycle of 400 years has 146097 days. -/
def toDays (date : Date) : Int :=
  let year := if date.month ≤ 2 then date.year - 1 else date.year
  let month := (date.month + 9) % 12
  let cycle := year / 400
  let yearOfCycle := year % 400
  let dayOfYear : Int := (153 * month + 2) / 5 + date.day - 1
  cycle * 146097 + yearOfCycle * 365 + yearOfCycle / 4 - yearOfCycle / 100 + dayOfYear - 719468

def ofDays (days : Int) : Date :=
  let shifted := days + 719468
  let cycle := shifted / 146097
  let dayOfCycle := (shifted % 146097).toNat
  let yearOfCycle :=
    (dayOfCycle - dayOfCycle / 1460 + dayOfCycle / 36524 - dayOfCycle / 146096) / 365
  let dayOfYear := dayOfCycle - (365 * yearOfCycle + yearOfCycle / 4 - yearOfCycle / 100)
  let month := (5 * dayOfYear + 2) / 153
  let calendarMonth := if month < 10 then month + 3 else month - 9
  { year := cycle * 400 + yearOfCycle + if calendarMonth ≤ 2 then 1 else 0
    month := calendarMonth
    day := dayOfYear - (153 * month + 2) / 5 + 1 }

end Date

end SchemaHistory
