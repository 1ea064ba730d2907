/-
  EventAlerts/Decimal/Shortest.lean
  =================================
  **The fewest digits that read back** — a positive binary number `m · 2^q` with at
  most 53 significant bits stands for every real that rounds to it.  Among the
  decimals in that interval the shortest is chosen, and among the shortest the one
  nearest to the number, the larger of two equally near ones.

  All arithmetic is exact: the number, its interval and a decimal grid are fractions
  over one denominator.  On each grid only the two neighbours of the number can be
  the nearest point of the interval, so the search tries those for the power of ten
  above the number, then for one digit, two digits and so on; seventeen digits always
  suffice.
-/

namespace EventAlerts.Decimal

/-- The decimal `coefficient · 10^exponent`. -/
structure Denary where
  coefficient : Nat
  exponent : Int
  deriving Repr, DecidableEq, Inhabited

/-- A positive binary number `mantissa · 2^exponent`. -/
structure Binary where
  mantissa : Nat
  exponent : Int
  deriving Repr, DecidableEq

/-- A fraction of natural numbers. -/
structure Fraction where
  num : Nat
  den : Nat
  deriving Repr, DecidableEq

/-- `base ^ e` as a fraction, for an exponent of either sign. -/
def Fraction.power (base : Nat) (e : Int) : Fraction :=
  if 0 ≤ e then ⟨Nat.pow base e.toNat, 1⟩ else ⟨1, Nat.pow base (-e).toNat⟩

def Fraction.mul (a b : Fraction) : Fraction := ⟨a.num * b.num, a.den * b.den⟩

def Fraction.le (a b : Fraction) : Bool := a.num * b.den ≤ b.num * a.den

def Fraction.lt (a b : Fraction) : Bool := a.num * b.den < b.num * a.den

/-- The number times four, so that the ends of its interval are whole multiples. -/
def Binary.quarters (b : Binary) (n : Nat) : Fraction :=
  Fraction.mul ⟨n, 4⟩ (Fraction.power 2 b.exponent)

/-- The value of a binary number. -/
def Binary.value (b : Binary) : Fraction := b.quarters (4 * b.mantissa)

/-- The lower end of the interval that rounds to the number.  Below a power of two
    the grid of binary numbers is twice as fine. -/
def Binary.lower (b : Binary) : Fraction :=
  if b.mantissa = Nat.pow 2 52 && -1074 < b.exponent then b.quarters (4 * b.mantissa - 1)
  else b.quarters (4 * b.mantissa - 2)

/-- The upper end of the interval that rounds to the number. -/
def Binary.upper (b : Binary) : Fraction := b.quarters (4 * b.mantissa + 2)

/-- Whether a value rounds to the number: the ends of the interval go to the even
    mantissa. -/
def Binary.absorbs (b : Binary) (v : Fraction) : Bool :=
  if b.mantissa % 2 = 0 then b.lower.le v && v.le b.upper
  else b.lower.lt v && v.lt b.upper

def Denary.value (d : Denary) : Fraction :=
  Fraction.mul ⟨d.coefficient, 1⟩ (Fraction.power 10 d.exponent)

/-- How many decimal digits a number has; zero has one. -/
def digitCount (n : Nat) : Nat := (Nat.toDigits 10 n).length

/-- How many leading zeros stand behind the point of a fraction below one: the
    least `k` with `num · 10^k ≥ den`, searched up to `fuel` steps. -/
def zerosBehindPoint (num den : Nat) : Nat → Nat
  | 0 => 0
  | fuel + 1 => if den ≤ num then 0 else 1 + zerosBehindPoint (num * 10) den fuel

/-- The exponent of the leading digit of a positive fraction. -/
def leadingExponent (v : Fraction) : Int :=
  if v.den ≤ v.num then (digitCount (v.num / v.den) : Int) - 1
  else -(zerosBehindPoint v.num v.den 400 : Int)

/-- The largest `n` with `n · 10^e ≤ v`. -/
def floorOn (v : Fraction) (e : Int) : Nat :=
  let scaled := v.mul (Fraction.power 10 (-e))
  scaled.num / scaled.den

/-- The distance of a decimal from `v`, as a numerator over a common denominator
    that depends on `v` and the exponent of the decimal only. -/
def distanceOn (v : Fraction) (d : Denary) : Nat :=
  let x := d.value
  let a := x.num * v.den
  let b := v.num * x.den
  (a - b) + (b - a)

/-- The nearer of the neighbours of the number on the grid `10^e` among those that
    read back; of two equally near ones the larger. -/
def Binary.onGrid? (b : Binary) (e : Int) : Option Denary :=
  let below : Denary := ⟨floorOn b.value e, e⟩
  let above : Denary := ⟨below.coefficient + 1, e⟩
  match b.absorbs below.value, b.absorbs above.value with
  | true, true =>
    if distanceOn b.value above ≤ distanceOn b.value below then some above else some below
  | true, false => some below
  | false, true => some above
  | false, false => none

/-- Tries ever finer grids, `tries` of them, from `10^e` on. -/
def Binary.shortestFrom (b : Binary) (e : Int) : Nat → Denary
  | 0 => ⟨floorOn b.value e, e⟩
  | tries + 1 =>
    match b.onGrid? e with
    | some d => if d.coefficient = 0 then b.shortestFrom (e - 1) tries else d
    | none => b.shortestFrom (e - 1) tries

/-- The shortest decimal that reads back as the number, nearest to it.  The first grid
    is that of the power of ten above the number, which may itself read back. -/
def Binary.shortest (b : Binary) : Denary :=
  b.shortestFrom (leadingExponent b.value + 1) 18

/-! ### Binary numbers of 64 bits -/

/-- What the 64 bits of a floating point number say. -/
inductive Parts
  | nan
  | infinite (negative : Bool)
  | zero (negative : Bool)
  | finite (negative : Bool) (magnitude : Binary)
  deriving Repr, DecidableEq

/-- Takes the bits of a floating point number apart. -/
def Parts.ofBits (bits : Nat) : Parts :=
  let negative : Bool := bits / Nat.pow 2 63 % 2 == 1
  let biased : Nat := bits / Nat.pow 2 52 % Nat.pow 2 11
  let fraction : Nat := bits % Nat.pow 2 52
  if biased = 2047 then if fraction = 0 then .infinite negative else .nan
  else if biased = 0 then
    if fraction = 0 then .zero negative else .finite negative ⟨fraction, -1074⟩
  else .finite negative ⟨Nat.pow 2 52 + fraction, (biased : Int) - 1075⟩

/-- The parts of a floating point number. -/
def Parts.ofFloat (f : Float) : Parts := .ofBits f.toBits.toNat

end EventAlerts.Decimal
