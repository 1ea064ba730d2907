/-
  EventAlerts/Decimal/Format.lean
  ===============================
  **Number texts** — how a floating point number is written.  `plain` is positional
  whatever the size; `compact` changes to an exponent below `10^-4` and from `10^16`
  on.  Both write the fewest digits that read back.  `fixed` writes a given number of
  places, and there a value halfway between two goes to the even one.
-/
import EventAlerts.Decimal.Shortest

namespace EventAlerts.Decimal

/-- The decimal digits of a number. -/
def digitsOf (n : Nat) : List Char := Nat.toDigits 10 n

/-- Digits with a point in front of the last `places` of them, zeros added in front
    so that one digit stands before the point. -/
def withPoint (digits : List Char) (places : Nat) : List Char :=
  if places = 0 then digits
  else
    let padded := List.replicate (places + 1 - digits.length) '0' ++ digits
    padded.take (padded.length - places) ++ '.' :: padded.drop (padded.length - places)

/-- A decimal in positional notation; whole numbers have no point. -/
def Denary.positional (d : Denary) : List Char :=
  if 0 ≤ d.exponent then digitsOf d.coefficient ++ List.replicate d.exponent.toNat '0'
  else withPoint (digitsOf d.coefficient) (-d.exponent).toNat

/-- A decimal as one digit, the other digits behind a point, and an exponent. -/
def Denary.scientific (d : Denary) : List Char :=
  let digits := digitsOf d.coefficient
  let shift : Int := d.exponent + ((digits.length : Int) - 1)
  withPoint digits (digits.length - 1) ++ 'e' :: (toString shift).toList

/-- Writes a sign in front of the text of a magnitude. -/
def signed (negative : Bool) (text : List Char) : List Char :=
  if negative then '-' :: text else text

/-- Adds `.0` to a text without a point. -/
def withFraction (text : List Char) : List Char :=
  if text.contains '.' then text else text ++ ['.', '0']

/-- The number in positional notation, with a point always. -/
def plainText (f : Float) : String :=
  match Parts.ofFloat f with
  | .nan => "NaN"
  | .infinite negative => String.ofList (signed negative "inf".toList)
  | .zero negative => String.ofList (signed negative "0.0".toList)
  | .finite negative b => String.ofList (signed negative (withFraction b.shortest.positional))

/-- Whether the value of a decimal is below `10^-4` or at least `10^16`. -/
def Denary.needsExponent (d : Denary) : Bool :=
  let leading : Int := d.exponent + ((digitCount d.coefficient : Int) - 1)
  leading < -4 || 16 ≤ leading

/-- The number in positional notation with a point, or with an exponent when it is
    very small or very large. -/
def compactText (f : Float) : String :=
  match Parts.ofFloat f with
  | .nan => "NaN"
  | .infinite negative => String.ofList (signed negative "inf".toList)
  | .zero negative => String.ofList (signed negative "0.0".toList)
  | .finite negative b =>
    let d := b.shortest
    String.ofList (signed negative
      (if d.needsExponent then d.scientific else withFraction d.positional))

/-- The quotient rounded to the nearest whole number, a half to the even one. -/
def roundHalfEven (num den : Nat) : Nat :=
  let quotient := num / den
  let rest := num % den
  if den < 2 * rest then quotient + 1
  else if den = 2 * rest && quotient % 2 = 1 then quotient + 1
  else quotient

/-- The number with exactly `places` digits behind the point. -/
def fixedText (places : Nat) (f : Float) : String :=
  match Parts.ofFloat f with
  | .nan => "NaN"
  | .infinite negative => String.ofList (signed negative "inf".toList)
  | .zero negative => String.ofList (signed negative (withPoint ['0'] places))
  | .finite negative b =>
    let scaled := b.value.mul ⟨Nat.pow 10 places, 1⟩
    String.ofList (signed negative (withPoint (digitsOf (roundHalfEven scaled.num scaled.den)) places))

end EventAlerts.Decimal
