/-
  EventAlerts/Time/Calendar.lean
  ==============================
  **Dates** — the Gregorian calendar, extended to all years, as a function of the
  number of days since the first of January 1970.

  The year is counted from the first of March, so that the day that a leap year adds
  comes last; 400 such years always have 146097 days.
-/

namespace EventAlerts.Time

/-- A day of the Gregorian calendar. -/
structure Date where
  year : Int
  /-- From 1 to 12. -/
  month : Nat
  /-- From 1 to 31. -/
  day : Nat
  deriving Repr, DecidableEq

namespace Date

/-- Days from the first of March of year 0 to the first of January 1970. -/
def epochShift : Int := 719468

/-- The days of 400 years. -/
def daysOfEra : Int := 146097

/-- The date a number of days after the first of January 1970. -/
def ofDays (days : Int) : Date :=
  let shifted := days + epochShift
  let era := shifted / daysOfEra
  let dayOfEra := (shifted % daysOfEra).toNat
  let yearOfEra := (dayOfEra - dayOfEra / 1460 + dayOfEra / 36524 - dayOfEra / 146096) / 365
  let dayOfYear := dayOfEra - (365 * yearOfEra + yearOfEra / 4 - yearOfEra / 100)
  let marchMonth := (5 * dayOfYear + 2) / 153
  let month := if marchMonth < 10 then marchMonth + 3 else marchMonth - 9
  { year := yearOfEra + era * 400 + (if month ≤ 2 then 1 else 0)
    month := month
    day := dayOfYear - (153 * marchMonth + 2) / 5 + 1 }

/-- The day of the week of a day number, with 0 for Sunday. -/
def weekday (days : Int) : Nat := ((days + 4) % 7).toNat

def weekdayNames : List String := ["Sun", "Mon", "Tue", "Wed", "Thu", "Fri", "Sat"]

def monthNames : List String :=
  ["Jan", "Feb", "Mar", "Apr", "May", "Jun", "Jul", "Aug", "Sep", "Oct", "Nov", "Dec"]

def weekdayName (days : Int) : String := weekdayNames.getD (weekday days) ""

def monthName (d : Date) : String := monthNames.getD (d.month - 1) ""

/-- Whether a year has a 29th of February. -/
def isLeapYear (year : Nat) : Bool := year % 4 = 0 && (year % 100 ≠ 0 || year % 400 = 0)

/-- How many days a month has. -/
def daysInMonth (year month : Nat) : Nat :=
  if month = 2 then (if isLeapYear year then 29 else 28)
  else if month = 4 || month = 6 || month = 9 || month = 11 then 30
  else 31

end Date

end EventAlerts.Time
