/-
  EventAlerts/Expr/Order.lean
  ===========================
  **Comparing values** — equality and order.

  Values of different kinds are ordered by kind, numbers by size, texts by code
  points, lists and maps item by item.  Equality looks through the difference between
  truth values, whole and floating point numbers (`1 == 1.0`, `0 == false`) and
  between lists and iterators, and compares maps without regard to order.
-/
import EventAlerts.Decimal.Convert
import EventAlerts.Expr.Value

namespace EventAlerts.Expr

open EventAlerts.Decimal (floatOfInt wholeValue? orderKey)

/-- Numbers of up to 128 bits are computed with. -/
def fitsWide (n : Int) : Bool := -Int.pow 2 127 ≤ n && n < Int.pow 2 127

/-- Whole numbers of more than 64 bits share the 128 bits of a word: next to another
    such number one of `2^127` or more stands for a negative number. -/
def asWord (n : Int) : Int := if Int.pow 2 127 ≤ n then n - Int.pow 2 128 else n

/-- Two operands brought to one type. -/
inductive Coerced
  | ints (a b : Int)
  | floats (a b : Float)
  | texts (a b : String)

namespace Value

/-- A truth value or whole number as a whole number. -/
def int? : Value → Option Int
  | .bool b => some (if b then 1 else 0)
  | .int n => some n
  | _ => Option.none

/-- A number or truth value as a floating point number. -/
def float? : Value → Option Float
  | .float f => some f
  | v => v.int?.map floatOfInt

/-- A number or truth value as a floating point number of the same size.  The largest
    numbers of 64 and 128 bits count as the powers of two behind them. -/
def exactFloat? : Value → Option Float
  | .float f => some f
  | v => v.int?.bind fun n =>
    let f := floatOfInt n
    let isLargest := n = Int.pow 2 64 - 1 || n = Int.pow 2 128 - 1
    if wholeValue? f = some n || (isLargest && wholeValue? f = some (n + 1)) then some f
    else Option.none

/-- Brings two operands to one type.  Next to a floating point number the other
    operand becomes one, by the given conversion.  Whole numbers have to fit 128 bits
    with a sign unless both are wider than 64 bits. -/
def coerceBy (toFloat : Value → Option Float) (a b : Value) : Option Coerced :=
  match a, b with
  | .text s, .text t => some (.texts s t)
  | .float f, b => (toFloat b).map (.floats f ·)
  | a, .float g => (toFloat a).map (.floats · g)
  | a, b => a.int?.bind fun m => b.int?.bind fun n =>
    if Int.pow 2 64 ≤ m && Int.pow 2 64 ≤ n then some (.ints (asWord m) (asWord n))
    else if fitsWide m && fitsWide n then some (.ints m n)
    else Option.none

/-- Brings the operands of an arithmetic operation to one type. -/
def coerce (a b : Value) : Option Coerced := coerceBy float? a b

/-- Brings two operands to one type without a change of size. -/
def coerceExactly (a b : Value) : Option Coerced := coerceBy exactFloat? a b

/-- The order of two values of the same kind that hold no other values. -/
def compareScalars (a b : Value) : Ordering :=
  match (coerceExactly a b).orElse fun _ => coerce a b with
  | some (.ints m n) => compare m n
  | some (.floats f g) => compare (orderKey f) (orderKey g)
  | some (.texts s t) => compare s t
  | Option.none =>
    match a.int?, b.int? with
    | some m, some n => compare m n
    | _, _ => .eq

mutual

/-- The order of two values. -/
def compareValues : Value → Value → Ordering
  | .list xs _, .list ys _ => compareItems xs ys
  | .iterator xs, .iterator ys => compareItems xs ys
  | .map xs _, .map ys _ => compareEntries xs ys
  | .function f, .function g => compare f.name g.name
  | a, b =>
    match compare a.kind.rank b.kind.rank with
    | .eq => compareScalars a b
    | o => o

def compareItems : List Value → List Value → Ordering
  | [], [] => .eq
  | [], _ :: _ => .lt
  | _ :: _, [] => .gt
  | x :: xs, y :: ys =>
    match compareValues x y with
    | .eq => compareItems xs ys
    | o => o

def compareEntries : List (Value × Value) → List (Value × Value) → Ordering
  | [], [] => .eq
  | [], _ :: _ => .lt
  | _ :: _, [] => .gt
  | (k, x) :: xs, (l, y) :: ys =>
    match compareValues k l with
    | .eq =>
      match compareValues x y with
      | .eq => compareEntries xs ys
      | o => o
    | o => o

end

/-- The value that map entries hold for a key. -/
def entryAt? (key : Value) : List (Value × Value) → Option Value
  | [] => Option.none
  | (k, v) :: rest => if compareValues k key == .eq then some v else entryAt? key rest

/-- Equality of values that hold no other values. -/
def equalScalars (a b : Value) : Bool :=
  match a, b with
  | .none, .none => true
  | .undefined, .undefined => true
  | .function f, .function g => f = g
  | a, b =>
    match coerceExactly a b with
    | some (.ints m n) => m = n
    | some (.floats f g) => f == g
    | some (.texts s t) => s = t
    | Option.none => false

mutual

/-- Whether two values are equal. -/
def equal : Value → Value → Bool
  | .list xs _, .list ys _ => equalItems xs ys
  | .list xs _, .iterator ys => equalItems xs ys
  | .iterator xs, .list ys _ => equalItems xs ys
  | .iterator xs, .iterator ys => equalItems xs ys
  | .map xs _, .map ys _ => xs.length == ys.length && equalEntries xs ys
  | a, b => equalScalars a b

def equalItems : List Value → List Value → Bool
  | [], [] => true
  | x :: xs, y :: ys => equal x y && equalItems xs ys
  | _, _ => false

/-- Whether the second map holds an equal value for every key of the first. -/
def equalEntries : List (Value × Value) → List (Value × Value) → Bool
  | [], _ => true
  | (k, x) :: xs, ys =>
    match entryAt? k ys with
    | some y => equal x y && equalEntries xs ys
    | Option.none => false

end

/-- Puts an entry into entries sorted by key, in place of one with an equal key. -/
def insertEntry (key value : Value) : List (Value × Value) → List (Value × Value)
  | [] => [(key, value)]
  | (k, v) :: rest =>
    match compareValues key k with
    | .lt => (key, value) :: (k, v) :: rest
    | .eq => (k, value) :: rest
    | .gt => (k, v) :: insertEntry key value rest

/-- A map with the given entries, sorted by key, the last of equal keys kept. -/
def sortedMap (entries : List (Value × Value)) : Value :=
  .map (entries.foldl (fun sorted e => insertEntry e.1 e.2 sorted) [])

end Value

end EventAlerts.Expr
