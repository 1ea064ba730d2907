/-
  EventAlerts/Decimal/Reader.lean
  ===============================
  **Reading numbers** — decimal texts and their values.  What digits and an exponent
  come to as a floating point number is the nearest one, a tie going to the even
  mantissa.
-/
import EventAlerts.Decimal.Shortest

namespace EventAlerts.Decimal

/-- The value of a digit below the base, letters standing for ten and up. -/
def digitValue? (base : Nat) (c : Char) : Option Nat :=
  let v? :=
    if c.isDigit then some (c.toNat - 48)
    else if c.isLower then some (c.toNat - 97 + 10)
    else if c.isUpper then some (c.toNat - 65 + 10)
    else none
  v?.filter (· < base)

/-- The value of digits after the number `acc`, if they all are digits of the base. -/
def readDigitsFrom (base acc : Nat) : List Char → Option Nat
  | [] => some acc
  | c :: rest => (digitValue? base c).bind fun d => readDigitsFrom base (acc * base + d) rest

/-- The value of a text of digits of the base, which must not be empty. -/
def readNat? (base : Nat) (s : List Char) : Option Nat :=
  if s.isEmpty then none else readDigitsFrom base 0 s

/-- The value of a text of digits of the base behind an optional plus. -/
def readUnsigned? (base : Nat) (s : List Char) : Option Nat :=
  match s with
  | '+' :: rest => readNat? base rest
  | s => readNat? base s

/-- The value of a text of digits with an optional sign. -/
def readInt? (s : List Char) : Option Int :=
  match s with
  | '-' :: rest => (readNat? 10 rest).map fun n => -(n : Int)
  | s => (readUnsigned? 10 s).map Int.ofNat

/-- The value of the digits of a text that are known to be decimal. -/
def natOfDigits (s : List Char) : Nat := s.foldl (fun n c => n * 10 + (c.toNat - 48)) 0

/-- The floating point number nearest to `coefficient · 10^exponent`. -/
def nearestFloat (coefficient : Nat) (exponent : Int) : Float :=
  if coefficient = 0 then 0.0
  else
    let leading : Int := exponent + digitCount coefficient
    if 310 < leading then 1.0 / 0.0
    else if leading < -330 then 0.0
    else if 0 ≤ exponent then Float.ofScientific coefficient false exponent.toNat
    else Float.ofScientific coefficient true (-exponent).toNat

/-- Reads a number without sign: digits with an optional point, at least one digit,
    and an optional exponent. -/
def readMagnitude? (s : List Char) : Option Float :=
  let whole := s.takeWhile Char.isDigit
  let (fraction, rest) :=
    match s.dropWhile Char.isDigit with
    | '.' :: rest => (rest.takeWhile Char.isDigit, rest.dropWhile Char.isDigit)
    | rest => ([], rest)
  if whole.isEmpty && fraction.isEmpty then none
  else
    let exponent? : Option Int :=
      match rest with
      | [] => some 0
      | e :: rest => if e = 'e' || e = 'E' then readInt? rest else none
    exponent?.map fun exponent =>
      nearestFloat (natOfDigits (whole ++ fraction)) (exponent - fraction.length)

/-- Reads a floating point number: a sign, then digits or one of the words `inf`,
    `infinity` and `nan` in any case. -/
def readFloat? (s : List Char) : Option Float :=
  let (negative, body) :=
    match s with
    | '-' :: rest => (true, rest)
    | '+' :: rest => (false, rest)
    | s => (false, s)
  let word := String.ofList (body.map Char.toLower)
  let magnitude? :=
    if word = "inf" || word = "infinity" then some (1.0 / 0.0)
    else if word = "nan" then some (0.0 / 0.0)
    else readMagnitude? body
  magnitude?.map fun f => if negative then -f else f

end EventAlerts.Decimal
