/-
  EventAlerts/Toml/Number.lean
  ============================
  **Numbers and times in TOML.**

  Digits may have single underscores between them.  A whole number has 64 bits with a
  sign, and is decimal, or without a sign hexadecimal, octal or binary.  A time is
  checked against the calendar and given back as text in one form: with a `T` before
  the time of day, nine digits of a second at most, and no zeros at their end.
-/
import EventAlerts.Time.Stamp
import EventAlerts.Toml.Basic
import EventAlerts.Toml.Lexeme

namespace EventAlerts.Toml

/-! ### Digits -/

/-- The digits that follow a digit, without the underscores between them. -/
def moreDigits (isDigit : Char → Bool) : List Char → List Char × List Char
  | [] => ([], [])
  | '_' :: d :: rest =>
    if isDigit d then
      let (digits, rest) := moreDigits isDigit rest
      (d :: digits, rest)
    else ([], '_' :: d :: rest)
  | d :: rest =>
    if isDigit d then
      let (digits, rest) := moreDigits isDigit rest
      (d :: digits, rest)
    else ([], d :: rest)

/-- One or more digits, without the underscores between them. -/
def digits? (isDigit : Char → Bool) : Reader (List Char)
  | [] => none
  | d :: rest =>
    if isDigit d then
      let (digits, rest) := moreDigits isDigit rest
      some (d :: digits, rest)
    else none

/-- The digits of a decimal number: no zero stands in front of others. -/
def decimalDigits? : Reader (List Char)
  | '0' :: rest => some (['0'], rest)
  | s => digits? Char.isDigit s

/-- A sign, if there is one. -/
def takeSign : List Char → List Char × List Char
  | '+' :: rest => (['+'], rest)
  | '-' :: rest => (['-'], rest)
  | s => ([], s)

/-! ### Numbers -/

def maxInt : Int := Int.pow 2 63 - 1

def minInt : Int := -Int.pow 2 63

/-- A whole number if it has 64 bits. -/
def boundedInt? (n : Int) : Option Toml := if minInt ≤ n ∧ n ≤ maxInt then some (.int n) else none

/-- The digits of a base, behind the mark of the base. -/
def basedInt? (base : Nat) : Reader Toml := fun s => do
  let (digits, rest) ← digits? (fun c => (Decimal.digitValue? base c).isSome) s
  let n ← Decimal.readNat? base digits
  return (← boundedInt? n, rest)

def int? : Reader Toml
  | '0' :: 'x' :: rest => basedInt? 16 rest
  | '0' :: 'o' :: rest => basedInt? 8 rest
  | '0' :: 'b' :: rest => basedInt? 2 rest
  | s => do
    let (sign, rest) := takeSign s
    let (digits, rest) ← decimalDigits? rest
    let n ← Decimal.readInt? (sign ++ digits)
    return (← boundedInt? n, rest)

/-- An exponent with its mark. -/
def exponent? : Reader (List Char)
  | [] => none
  | e :: rest =>
    if e = 'e' || e = 'E' then
      let (sign, rest) := takeSign rest
      (digits? Char.isDigit rest).map fun (digits, rest) => ('e' :: sign ++ digits, rest)
    else none

/-- A fraction with its point, and an exponent if there is one. -/
def fraction? : Reader (List Char)
  | '.' :: rest => do
    let (digits, rest) ← digits? Char.isDigit rest
    match exponent? rest with
    | some (e, rest) => return ('.' :: digits ++ e, rest)
    | none => return ('.' :: digits, rest)
  | _ => none

/-- A number with a fraction or an exponent.  One that is too large is refused; one
    that is too small is the negative infinity. -/
def decimal? : Reader Toml := fun s => do
  let (sign, rest) := takeSign s
  let (whole, rest) ← decimalDigits? rest
  let (tail, rest) ← exponent? rest <|> fraction? rest
  let f ← Decimal.readFloat? (sign ++ whole ++ tail)
  if f == 1.0 / 0.0 then none else return (.float f, rest)

/-- One of the words `inf` and `nan` with an optional sign. -/
def special? : Reader Toml := fun s =>
  let (sign, rest) := takeSign s
  let value (f : Float) := Toml.float (if sign = ['-'] then -f else f)
  match rest with
  | 'i' :: 'n' :: 'f' :: rest => some (value (1.0 / 0.0), rest)
  | 'n' :: 'a' :: 'n' :: rest => some (value (0.0 / 0.0), rest)
  | _ => none

/-! ### Times -/

/-- A number of exactly so many digits between two bounds. -/
def field? (width low high : Nat) : Reader Nat := fun s =>
  let digits := s.takeWhile Char.isDigit
  if digits.length < width then none
  else
    let n := Decimal.natOfDigits (digits.take width)
    if low ≤ n ∧ n ≤ high then some (n, s.drop width) else none

/-- What follows a character that must be there. -/
def after? (c : Char) : List Char → Option (List Char)
  | [] => none
  | d :: rest => if d = c then some rest else none

/-- A date. -/
def date? : Reader String := fun s => do
  let (year, s) ← field? 4 0 9999 s
  let (month, s) ← field? 2 1 12 (← after? '-' s)
  let (day, s) ← field? 2 1 31 (← after? '-' s)
  if day ≤ Time.Date.daysInMonth year month then
    return (Time.Stamp.padded 4 year ++ "-" ++ Time.Stamp.padded 2 month ++ "-" ++
      Time.Stamp.padded 2 day, s)
  else none

/-- The digits of a second behind the point, nine at most and without zeros at the end. -/
def secondFraction (s : List Char) : String × List Char :=
  match s with
  | '.' :: rest =>
    let digits := rest.takeWhile Char.isDigit
    if digits.isEmpty then ("", s)
    else
      let kept := ((digits.take 9).reverse.dropWhile (· = '0')).reverse
      (if kept.isEmpty then "" else String.ofList ('.' :: kept), rest.dropWhile Char.isDigit)
  | _ => ("", s)

/-- A time of day. -/
def timeOfDay? : Reader String := fun s => do
  let (hour, s) ← field? 2 0 23 s
  let (minute, s) ← field? 2 0 59 (← after? ':' s)
  let (second, s) ← field? 2 0 60 (← after? ':' s)
  let (fraction, s) := secondFraction s
  return (Time.Stamp.padded 2 hour ++ ":" ++ Time.Stamp.padded 2 minute ++ ":" ++
    Time.Stamp.padded 2 second ++ fraction, s)

/-- A distance from UTC.  A distance of nothing has a plus sign. -/
def offset? : Reader String
  | [] => none
  | c :: rest =>
    if c = 'Z' || c = 'z' then some ("Z", rest)
    else if c = '+' || c = '-' then do
      let (hour, s) ← field? 2 0 23 rest
      let (minute, s) ← field? 2 0 59 (← after? ':' s)
      let sign := if c = '-' && (hour ≠ 0 || minute ≠ 0) then "-" else "+"
      return (sign ++ Time.Stamp.padded 2 hour ++ ":" ++ Time.Stamp.padded 2 minute, s)
    else none

/-- The time of day behind a date, with its distance from UTC, if it is there. -/
def dayTail (s : List Char) : String × List Char :=
  match s with
  | [] => ("", s)
  | c :: rest =>
    if c = 'T' || c = 't' || c = ' ' then
      match timeOfDay? rest with
      | some (clock, rest) =>
        match offset? rest with
        | some (offset, rest) => ("T" ++ clock ++ offset, rest)
        | none => ("T" ++ clock, rest)
      | none => ("", s)
    else ("", s)

/-- A date, a time of day, or both. -/
def time? : Reader Toml := fun s =>
  match date? s with
  | some (date, rest) =>
    let (tail, rest) := dayTail rest
    some (.time (date ++ tail), rest)
  | none => (timeOfDay? s).map fun (clock, rest) => (.time clock, rest)

/-- A number or a time. -/
def number? : Reader Toml := fun s => time? s <|> decimal? s <|> special? s <|> int? s

end EventAlerts.Toml
