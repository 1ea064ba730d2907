/-
  EventAlerts/Json/Number.lean
  ============================
  **JSON numbers** — the grammar of a number and the value it is read as.

  A number without point and exponent is whole when it fits 64 bits, signed or
  unsigned.  Any other number is floating point: its first digits, as many as fit an
  unsigned 64 bit number, times a power of ten, one rounding for each factor.  A
  product too large for a floating point number has no value.
-/
import EventAlerts.Decimal.Reader
import EventAlerts.Json.Basic

namespace EventAlerts.Json

open EventAlerts.Decimal (nearestFloat)

/-- The largest unsigned number of 64 bits. -/
def maxUnsigned : Nat := Nat.pow 2 64 - 1

/-- Digits gathered while they fit 64 bits: the number read so far and how many
    digits came after it filled up. -/
structure Gathered where
  significand : Nat
  dropped : Nat
  full : Bool

/-- Adds a digit unless the number is full or would not fit. -/
def Gathered.push (g : Gathered) (c : Char) : Gathered :=
  let next := g.significand * 10 + (c.toNat - 48)
  if g.full || maxUnsigned < next then { g with dropped := g.dropped + 1, full := true }
  else { g with significand := next }

/-- A number text taken apart: sign, digits before and behind the point, exponent. -/
structure NumberText where
  negative : Bool
  whole : List Char
  fraction : Option (List Char)
  exponent : Option (Bool × List Char)

/-- Splits digits off the front; at least one is needed. -/
def takeDigits? (s : List Char) : Option (List Char × List Char) :=
  let digits := s.takeWhile Char.isDigit
  if digits.isEmpty then none else some (digits, s.dropWhile Char.isDigit)

/-- The digits before the point: a zero alone, or digits that start with another. -/
def takeWhole? (s : List Char) : Option (List Char × List Char) :=
  match takeDigits? s with
  | some ('0' :: _ :: _, _) => none
  | r => r

/-- The exponent at the front of the text, if `e` starts one. -/
def takeExponent? (s : List Char) : Option (Option (Bool × List Char) × List Char) :=
  match s with
  | e :: rest =>
    if e = 'e' || e = 'E' then
      let (negative, rest) :=
        match rest with
        | '-' :: rest => (true, rest)
        | '+' :: rest => (false, rest)
        | rest => (false, rest)
      (takeDigits? rest).map fun (digits, rest) => (some (negative, digits), rest)
    else some (none, s)
  | [] => some (none, [])

/-- The number text at the front of `s`. -/
def takeNumber? (s : List Char) : Option (NumberText × List Char) := do
  let (negative, rest) := match s with
    | '-' :: rest => (true, rest)
    | rest => (false, rest)
  let (whole, rest) ← takeWhole? rest
  let (fraction, rest) ← match rest with
    | '.' :: rest => (takeDigits? rest).map fun (digits, rest) => (some digits, rest)
    | rest => some (none, rest)
  let (exponent, rest) ← takeExponent? rest
  return (⟨negative, whole, fraction, exponent⟩, rest)

/-- `significand · 10^exponent`, rounded once for the significand and once for each
    power of ten.  Small powers go down in steps of `10^308`. -/
def scaled? (significand : Nat) (exponent : Int) : Option Float :=
  let f := (UInt64.ofNat significand).toFloat
  if significand = 0 then some 0.0
  else if 308 < exponent then none
  else if 0 ≤ exponent then
    let product := f * nearestFloat 1 exponent
    if product.isInf then none else some product
  else if -308 ≤ exponent then some (f / nearestFloat 1 (-exponent))
  else if -616 ≤ exponent then some (f / nearestFloat 1 308 / nearestFloat 1 (-exponent - 308))
  else some 0.0

/-- The value of an exponent; one beyond 31 bits counts as very large. -/
def exponentValue (e : Option (Bool × List Char)) : Int :=
  match e with
  | none => 0
  | some (negative, digits) =>
    let n : Int := min (Decimal.natOfDigits digits) (Int.pow 2 31)
    if negative then -n else n

/-- The value of a number text. -/
def NumberText.value (t : NumberText) : Json :=
  let whole := t.whole.foldl Gathered.push ⟨0, 0, false⟩
  let negate (f : Float) : Float := if t.negative then -f else f
  match t.fraction, t.exponent, whole.full with
  | none, none, false =>
    let n := whole.significand
    if !t.negative then .int n
    else if n = 0 || Nat.pow 2 63 < n then .float (negate (UInt64.ofNat n).toFloat)
    else .int (-(n : Int))
  | fraction, exponent, _ =>
    let digits := fraction.getD []
    let all := digits.foldl Gathered.push ⟨whole.significand, 0, false⟩
    let places : Int := (digits.length : Int) - all.dropped
    match scaled? all.significand (exponentValue exponent + whole.dropped - places) with
    | some f => .float (negate f)
    | none => .unreadable

end EventAlerts.Json
