/-
  EventAlerts/Time/SpanText.lean
  ==============================
  **Spans as text** — such as `1h 30m` or `1.5h`.

  A span is a sum of numbers with units.  Blanks may stand before and inside a number,
  between a number and its unit, and behind a unit; a digit behind a unit starts the
  next number.  A fraction has to be a whole number of nanoseconds, or of seconds from
  the hour on.  No number may leave 64 bits on the way.
-/
import EventAlerts.Decimal.Reader
import EventAlerts.Text.Basic
import EventAlerts.Time.Stamp

namespace EventAlerts.Time

/-- A unit of time. -/
structure SpanUnit where
  /-- How long it is. -/
  nanos : Nat
  /-- What its fractions are counted in: nanoseconds, or seconds. -/
  grain : Nat
  deriving Repr, DecidableEq

namespace SpanUnit

/-- A unit whose fractions are counted in nanoseconds. -/
def fine (nanos : Nat) : SpanUnit := ⟨nanos, 1⟩

/-- A unit of so many seconds whose fractions are counted in seconds. -/
def coarse (seconds : Nat) : SpanUnit := ⟨seconds * nanosPerSecond, nanosPerSecond⟩

/-- The units with their names.  A month has 30.44 days and a year 365.25. -/
def table : List (List String × SpanUnit) :=
  [(["nanos", "nsec", "ns"], fine 1),
   (["usec", "us", "\u00b5s"], fine 1000),
   (["millis", "msec", "ms"], fine 1000000),
   (["seconds", "second", "secs", "sec", "s"], fine nanosPerSecond),
   (["minutes", "minute", "min", "mins", "m"], fine (60 * nanosPerSecond)),
   (["hours", "hour", "hrs", "hr", "h"], coarse 3600),
   (["days", "day", "d"], coarse 86400),
   (["weeks", "week", "wks", "wk", "w"], coarse 604800),
   (["months", "month", "M"], coarse 2630016),
   (["years", "year", "yrs", "yr", "y"], coarse 31557600)]

/-- The unit with a name. -/
def named? (name : String) : Option SpanUnit :=
  (table.find? fun entry => entry.1.contains name).map Prod.snd

end SpanUnit

/-- The largest number of 64 bits. -/
def maxWord : Nat := Nat.pow 2 64 - 1

/-- A number if it has 64 bits. -/
def word? (n : Nat) : Option Nat := if n ≤ maxWord then some n else none

/-- A number with its unit, as it is written. -/
structure SpanPart where
  whole : List Char
  /-- The digits behind the point, if there is one. -/
  fraction : Option (List Char) := none
  unit : List Char

/-- Characters that units are made of. -/
def isUnitChar (c : Char) : Bool := c.isAlpha || c = '\u00b5'

/-- The digits of a number that may have blanks in it, and what follows. -/
def takeDigits : List Char → List Char × List Char
  | [] => ([], [])
  | c :: rest =>
    if c.isDigit then
      let (digits, rest) := takeDigits rest
      (c :: digits, rest)
    else if Text.isBlank c then takeDigits rest
    else ([], c :: rest)

namespace SpanPart

/-- The first part of a text that starts with a digit, and what follows it. -/
def take? (s : List Char) : Option (SpanPart × List Char) :=
  let (whole, rest) := takeDigits s
  let found : Option (Option (List Char) × List Char) :=
    match rest with
    | '.' :: rest =>
      let (digits, rest) := takeDigits rest
      if digits.isEmpty then none else some (some digits, rest)
    | rest => some (none, rest)
  found.bind fun (fraction, rest) =>
    let unit := rest.takeWhile isUnitChar
    let rest := rest.dropWhile isUnitChar
    let part : SpanPart := { whole := whole, fraction := fraction, unit := unit }
    match rest with
    | [] => some (part, [])
    | c :: _ => if c.isDigit || Text.isBlank c then some (part, rest) else none

/-- The span of a fraction of a unit. -/
def fractionSpan? (unit : SpanUnit) (digits : List Char) : Option Span := do
  let numerator ← word? (Decimal.natOfDigits digits)
  let denominator ← word? (Nat.pow 10 digits.length)
  let scaled ← word? (numerator * (unit.nanos / unit.grain))
  if scaled % denominator = 0 then return scaled / denominator * unit.grain else none

/-- A sum of two spans whose seconds have 64 bits. -/
def add? (a b : Span) : Option Span := do
  let sum := a + b
  discard (word? (sum / nanosPerSecond))
  return sum

/-- Adds the span of a part.  From the second on its seconds have 64 bits, and below
    that its nanoseconds do, with those that the sum already has. -/
def addTo? (total : Span) (p : SpanPart) : Option Span := do
  let unit ← SpanUnit.named? (String.ofList p.unit)
  let whole ← word? (Decimal.natOfDigits p.whole)
  discard (word? (if nanosPerSecond ≤ unit.nanos then whole * (unit.nanos / nanosPerSecond)
    else total % nanosPerSecond + whole * unit.nanos))
  let total ← add? total (whole * unit.nanos)
  match p.fraction with
  | none => return total
  | some digits => add? total (← fractionSpan? unit digits)

end SpanPart

/-- The parts of a text, added up. -/
def sumParts : Nat → Span → List Char → Option Span
  | 0, _, _ => none
  | bound + 1, total, s =>
    match s.dropWhile Text.isBlank with
    | [] => some total
    | c :: rest =>
      if c.isDigit then do
        let (part, rest) ← SpanPart.take? (c :: rest)
        sumParts bound (← part.addTo? total) rest
      else none

/-- Reads a span.  The single digit zero needs no unit. -/
def spanOfText? (s : String) : Option Span :=
  let text := s.toList
  if text = ['0'] then some 0
  else if Text.isAllBlank s then none
  else sumParts (text.length + 1) 0 text

end EventAlerts.Time
