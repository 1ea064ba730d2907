/-
  EventAlerts/Expr/Operator.lean
  ==============================
  **Operators** — arithmetic, concatenation, membership and slices.

  Whole numbers have 128 bits and their operations fail on overflow.  Division gives
  a floating point number always; the quotient and remainder of whole numbers are
  chosen so that the remainder is not negative.  A truth value counts as 0 or 1.
-/
import EventAlerts.Expr.Error
import EventAlerts.Expr.Order
import EventAlerts.Text.Basic

namespace EventAlerts.Expr

open EventAlerts.Decimal (remainder euclideanQuotient wholeValue?)

namespace Value

/-- The items of a list or iterator. -/
def sequence? : Value → Option (List Value)
  | .list items _ => some items
  | .iterator items => some items
  | _ => Option.none

/-- What a loop over the value runs through: the items of a list, the keys of a map,
    the characters of a text, nothing for an absent value. -/
def items? : Value → Option (List Value)
  | .undefined => some []
  | .none => some []
  | .text s => some (s.toList.map fun c => .text (String.singleton c))
  | .list items _ => some items
  | .iterator items => some items
  | .map entries _ => some (entries.map Prod.fst)
  | _ => Option.none

/-- The whole number a value stands for, if it fits 128 bits with a sign.  Whole
    floating point numbers of 64 bits count, the first number beyond them as the last
    one of them. -/
def wholeNumber? : Value → Option Int
  | .float f =>
    ((wholeValue? f).filter fun n => -Int.pow 2 63 ≤ n && n ≤ Int.pow 2 63).map
      (min (Int.pow 2 63 - 1))
  | v => v.int?.filter fitsWide

/-- A whole number in the given bounds. -/
def intWithin? (low high : Int) (v : Value) : Option Int :=
  v.wholeNumber?.filter fun n => low ≤ n && n ≤ high

/-- A whole number of 64 bits. -/
def index? (v : Value) : Option Int := v.intWithin? (-Int.pow 2 63) (Int.pow 2 63 - 1)

/-- A count: a whole number of 64 bits without sign. -/
def count? (v : Value) : Option Nat := (v.intWithin? 0 (Int.pow 2 64 - 1)).map Int.toNat

/-- A result of whole number arithmetic. -/
def ofWide (n : Int) : Except Fault Value :=
  if fitsWide n then .ok (.int n) else .error .overflow

/-! ### Arithmetic -/

/-- An arithmetic operation given by its meaning on whole and floating point numbers. -/
def arithmetic (onInts : Int → Int → Except Fault Value) (onFloats : Float → Float → Float)
    (a b : Value) : Except Fault Value :=
  match coerce a b with
  | some (.ints m n) => onInts m n
  | some (.floats f g) => .ok (.float (onFloats f g))
  | _ => .error .badOperands

/-- The sum of numbers; texts are joined, lists are chained. -/
def add (a b : Value) : Except Fault Value :=
  match a.sequence?, b.sequence? with
  | some xs, some ys => .ok (.iterator (xs ++ ys))
  | _, _ =>
    match a, b with
    | .text s, .text t => .ok (.text (s ++ t))
    | a, b => arithmetic (fun m n => ofWide (m + n)) (· + ·) a b

def sub (a b : Value) : Except Fault Value :=
  arithmetic (fun m n => ofWide (m - n)) (· - ·) a b

/-- A text written a number of times. -/
def repeatText (s : String) (n : Nat) : String :=
  String.ofList (List.replicate n s.toList).flatten

/-- The product of numbers; a text or list is repeated. -/
def mul (a b : Value) : Except Fault Value :=
  match a.text?, b.text? with
  | some s, _ =>
    match b.count? with
    | some n => .ok (.text (repeatText s n))
    | Option.none => .error .badOperands
  | Option.none, some s =>
    match a.count? with
    | some n => .ok (.text (repeatText s n))
    | Option.none => .error .badOperands
  | Option.none, Option.none =>
    match a.sequence?, b.sequence? with
    | some xs, _ =>
      match b.count? with
      | some n => .ok (.iterator (List.replicate n xs).flatten)
      | Option.none => .error .badOperands
    | Option.none, some ys =>
      match a.count? with
      | some n => .ok (.iterator (List.replicate n ys).flatten)
      | Option.none => .error .badOperands
    | Option.none, Option.none => arithmetic (fun m n => ofWide (m * n)) (· * ·) a b

/-- The quotient as a floating point number. -/
def div (a b : Value) : Except Fault Value :=
  match a.float?, b.float? with
  | some f, some g => .ok (.float (f / g))
  | _, _ => .error .badOperands

/-- The whole quotient whose remainder is not negative. -/
def floorDiv (a b : Value) : Except Fault Value :=
  arithmetic (fun m n => if n = 0 then .error .divisionByZero else ofWide (m / n))
    euclideanQuotient a b

/-- The remainder: never negative for whole numbers, with the sign of the dividend
    for floating point numbers. -/
def rem (a b : Value) : Except Fault Value :=
  arithmetic (fun m n => if n = 0 then .error .divisionByZero else ofWide (m % n)) remainder a b

/-- Powers of whole numbers by squaring, stopped as soon as a factor is too wide. -/
def widePower? (acc base : Int) (n : Nat) : Option Int :=
  if n = 0 then some acc
  else if fitsWide acc && fitsWide base then
    widePower? (if n % 2 = 1 then acc * base else acc) (if n / 2 = 0 then 1 else base * base) (n / 2)
  else Option.none
termination_by n

/-- The power of numbers; the exponent of a whole number is a whole number of 32 bits. -/
def pow (a b : Value) : Except Fault Value :=
  arithmetic
    (fun m n =>
      if n < 0 || Int.pow 2 32 ≤ n then .error .overflow
      else match widePower? 1 m n.toNat with
        | some p => ofWide p
        | Option.none => .error .overflow)
    Float.pow a b

/-- The number with the other sign.  The first number too wide for 128 bits with a
    sign stays as it is. -/
def neg : Value → Except Fault Value
  | .float f => .ok (.float (-f))
  | .int n =>
    if n = Int.pow 2 127 then .ok (.int n)
    else if n < Int.pow 2 127 then ofWide (-n)
    else .error .badOperands
  | _ => .error .badOperands

/-- The texts of two values, joined. -/
def concat (a b : Value) : Value := .text (a.display ++ b.display)

/-! ### Membership and items -/

/-- Whether a container holds a value: as part of a text, key of a map or item of a
    list.  An undefined container holds nothing. -/
def holds (container v : Value) : Except Fault Bool :=
  match container with
  | .undefined => .ok false
  | .text s => .ok (Text.contains s v.display)
  | .list items _ => .ok (items.any (equal · v))
  | .iterator items => .ok (items.any (equal · v))
  | .map entries _ => .ok (entryAt? v entries).isSome
  | .function _ => .ok false
  | _ => .error .badOperands

/-- The item at an index that counts from the end when negative. -/
def itemAt? (items : List α) (i : Int) : Option α :=
  if 0 ≤ i then items[i.toNat]?
  else if (-i).toNat ≤ items.length then items[items.length - (-i).toNat]?
  else Option.none

/-- The item of a value under a key; undefined where there is none. -/
def item (v key : Value) : Value :=
  match v with
  | .map entries _ => (entryAt? key entries).getD .undefined
  | .list items _ => ((key.index?.bind (itemAt? items ·)).getD .undefined)
  | .iterator items => ((key.index?.bind (itemAt? items ·)).getD .undefined)
  | .text s =>
    match key.index?.bind (itemAt? s.toList ·) with
    | some c => .text (String.singleton c)
    | Option.none => .undefined
  | _ => .undefined

/-- The attribute of a value; only maps have some. -/
def attr (v : Value) (name : String) : Value := v.item (.text name)

/-! ### Slices -/

/-- Every `step`-th item, the first included; `wait` items are passed over first. -/
def everyFrom (step : Nat) : Nat → List α → List α
  | _, [] => []
  | 0, x :: rest => x :: everyFrom step (step - 1) rest
  | wait + 1, _ :: rest => everyFrom step wait rest

/-- A slice bound as a place between `0` and `length`; negative bounds count from
    the end. -/
def place (length : Nat) (i : Int) : Nat :=
  if 0 ≤ i then min i.toNat length else length - (-i).toNat

/-- The items from `start` up to `stop`, every `step`-th one.  With a negative step
    the slice runs backwards, from `start` down to the item after `stop`. -/
def sliceItems (items : List α) (start stop : Option Int) (step : Int) : List α :=
  let n := items.length
  if 0 < step then
    let first := place n (start.getD 0)
    let last := match stop with | some i => place n i | Option.none => n
    everyFrom step.toNat 0 ((items.drop first).take (last - first))
  else
    -- counted from the end: reversed, the item `i` stands at `n - 1 - i`
    let first := match start with
      | some i => if 0 ≤ i then n - 1 - min i.toNat (n - 1) else min ((-i).toNat - 1) n
      | Option.none => 0
    let last := match stop with
      | some i => if 0 ≤ i then n - 1 - min i.toNat (n - 1) else min ((-i).toNat - 1) n
      | Option.none => n
    everyFrom (-step).toNat 0 ((items.reverse.drop first).take (last - first))

/-- An optional slice bound. -/
def bound? (v : Value) : Except Fault (Option Int) :=
  match v with
  | .none => .ok Option.none
  | v =>
    match v.index? with
    | some i => .ok (some i)
    | Option.none => .error .badArgument

/-- A slice of a text or list; an absent value is sliced like the empty list. -/
def slice (v start stop step : Value) : Except Fault Value := do
  let start ← bound? start
  let stop ← bound? stop
  let step := (← bound? step).getD 1
  if step = 0 then throw .badArgument
  match v with
  | .undefined => return .list []
  | .none => return .list []
  | .text s => return .text (String.ofList (sliceItems s.toList start stop step))
  | .list items _ => return .iterator (sliceItems items start stop step)
  | .iterator items => return .iterator (sliceItems items start stop step)
  | _ => throw .badOperands

end Value

end EventAlerts.Expr
