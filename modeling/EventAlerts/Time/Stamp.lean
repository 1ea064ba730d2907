/-
  EventAlerts/Time/Stamp.lean
  ===========================
  **Wall time** — a point in time as nanoseconds since the first of January 1970 in
  UTC, and the two texts it is shown as.
-/
import EventAlerts.Time.Calendar

namespace EventAlerts.Time

/-- A length of time in nanoseconds. -/
abbrev Span := Nat

def nanosPerSecond : Nat := 1000000000

def nanosPerMilli : Nat := 1000000

/-- A point in time. -/
structure Stamp where
  /-- Nanoseconds since the first of January 1970; negative before. -/
  nanos : Int
  deriving Repr, DecidableEq, Inhabited

namespace Stamp

/-- The whole seconds since the first of January 1970, rounded down. -/
def seconds (t : Stamp) : Int := t.nanos / nanosPerSecond

/-- The nanoseconds of the running second. -/
def fraction (t : Stamp) : Nat := (t.nanos % nanosPerSecond).toNat

/-- The days since the first of January 1970. -/
def days (t : Stamp) : Int := t.seconds / 86400

/-- The seconds of the running day. -/
def secondOfDay (t : Stamp) : Nat := (t.seconds % 86400).toNat

def date (t : Stamp) : Date := Date.ofDays t.days

/-- A number with zeros in front of it up to a width. -/
def padded (width n : Nat) : String :=
  let digits := Nat.toDigits 10 n
  String.ofList (List.replicate (width - digits.length) '0' ++ digits)

/-- A year with four digits at least.  A year that four digits do not hold has a sign. -/
def yearText (year : Int) : String :=
  if 0 ≤ year ∧ year ≤ 9999 then padded 4 year.toNat
  else if year < 0 then "-" ++ padded 4 year.natAbs
  else "+" ++ padded 4 year.natAbs

/-- The time of day, with a colon between the parts. -/
def clockText (t : Stamp) : String :=
  padded 2 (t.secondOfDay / 3600) ++ ":" ++ padded 2 (t.secondOfDay / 60 % 60) ++ ":" ++
    padded 2 (t.secondOfDay % 60)

/-- The fraction of a second with as many digits as it needs: none, three, six or nine. -/
def fractionText (fraction : Nat) : String :=
  if fraction = 0 then ""
  else if fraction % 1000000 = 0 then "." ++ padded 3 (fraction / 1000000)
  else if fraction % 1000 = 0 then "." ++ padded 6 (fraction / 1000)
  else "." ++ padded 9 fraction

/-- The time in the internet format, with `Z` for UTC. -/
def rfc3339 (t : Stamp) : String :=
  yearText t.date.year ++ "-" ++ padded 2 t.date.month ++ "-" ++ padded 2 t.date.day ++ "T" ++
    t.clockText ++ fractionText t.fraction ++ "Z"

/-- The time as it is shown in messages, such as `Sat, 14. Mar 2026 12:00:00 UTC`. -/
def shown (t : Stamp) : String :=
  Date.weekdayName t.days ++ ", " ++ toString t.date.day ++ ". " ++ t.date.monthName ++ " " ++
    yearText t.date.year ++ " " ++ t.clockText ++ " UTC"

/-- The years that a calendar time can have. -/
def inRange (t : Stamp) : Bool := -262143 ≤ t.date.year && t.date.year ≤ 262142

/-- The time a span later. -/
def later (t : Stamp) (span : Span) : Stamp := { nanos := t.nanos + span }

end Stamp

end EventAlerts.Time
