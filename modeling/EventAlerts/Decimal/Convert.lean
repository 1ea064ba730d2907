/-
  EventAlerts/Decimal/Convert.lean
  ================================
  **Whole numbers and floating point numbers** — the conversions both ways and the
  remainder of a floating point division, all computed exactly on mantissa and
  exponent.
-/
import EventAlerts.Decimal.Reader

namespace EventAlerts.Decimal

/-- The floating point number nearest to a whole number. -/
def floatOfInt (n : Int) : Float :=
  let magnitude := nearestFloat n.natAbs 0
  if n < 0 then -magnitude else magnitude

/-- The whole part of a positive binary number. -/
def Binary.whole (b : Binary) : Nat :=
  if 0 ≤ b.exponent then b.mantissa * Nat.pow 2 b.exponent.toNat
  else b.mantissa / Nat.pow 2 (-b.exponent).toNat

/-- The number without its fraction, if it is finite. -/
def truncate? (f : Float) : Option Int :=
  match Parts.ofFloat f with
  | .nan => none
  | .infinite _ => none
  | .zero _ => some 0
  | .finite negative b => some (if negative then -(b.whole : Int) else b.whole)

/-- The number without its fraction, moved into `low … high`; not-a-number is zero. -/
def truncateWithin (low high : Int) (f : Float) : Int :=
  match Parts.ofFloat f with
  | .nan => 0
  | .infinite negative => if negative then low else high
  | _ => max low (min high ((truncate? f).getD 0))

/-- The whole number that a floating point number is, if it is one. -/
def wholeValue? (f : Float) : Option Int :=
  match truncate? f with
  | some n => if floatOfInt n == f then some n else none
  | none => none

/-- The remainder of the division of positive binary numbers. -/
def Binary.remainder (a b : Binary) : Binary :=
  if b.exponent ≤ a.exponent then
    ⟨a.mantissa * Nat.pow 2 (a.exponent - b.exponent).toNat % b.mantissa, b.exponent⟩
  else
    ⟨a.mantissa % (b.mantissa * Nat.pow 2 (b.exponent - a.exponent).toNat), a.exponent⟩

/-- The floating point number with the value of a binary number of few digits. -/
def Binary.toFloat (b : Binary) : Float :=
  (UInt64.ofNat b.mantissa).toFloat.scaleB b.exponent

/-- The remainder of a division rounded toward zero; it has the sign of the dividend. -/
def remainder (a b : Float) : Float :=
  match Parts.ofFloat a, Parts.ofFloat b with
  | .finite negative x, .finite _ y =>
    let r := (x.remainder y).toFloat
    if negative then -r else r
  | .zero _, .finite _ _ => a
  | .zero _, .infinite _ => a
  | .finite _ _, .infinite _ => a
  | _, _ => 0.0 / 0.0

/-- A floating point number without its fraction. -/
def truncateFloat (f : Float) : Float := if f < 0.0 then f.ceil else f.floor

/-- The quotient for which the remainder is not negative. -/
def euclideanQuotient (a b : Float) : Float :=
  let q := truncateFloat (a / b)
  if remainder a b < 0.0 then if 0.0 < b then q - 1.0 else q + 1.0 else q

/-- A power of a floating point number by repeated squaring: `acc · base ^ n`. -/
def powerFrom (acc base : Float) (n : Nat) : Float :=
  if n = 0 then acc
  else
    let acc := if n % 2 = 1 then acc * base else acc
    if n / 2 = 0 then acc else powerFrom acc (base * base) (n / 2)
termination_by n

/-- A whole power of a floating point number. -/
def wholePower (base : Float) (n : Int) : Float :=
  let p := powerFrom 1.0 base n.natAbs
  if n < 0 then 1.0 / p else p

/-- The place of a floating point number in the total order: negative numbers below
    positive ones, `-0.0` below `0.0`, and not-a-number at the ends. -/
def orderKey (f : Float) : Int :=
  let bits : Int := f.toBits.toNat
  if bits < Int.pow 2 63 then bits else Int.pow 2 63 - 1 - bits

end EventAlerts.Decimal
