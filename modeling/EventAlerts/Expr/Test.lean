/-
  EventAlerts/Expr/Test.lean
  ==========================
  **Tests** — what stands behind `is`.
-/
import EventAlerts.Expr.Call

namespace EventAlerts.Expr

inductive Test
  | isUndefined | isDefined | isNone | isTrue | isFalse | isBoolean
  | odd | even | divisibleBy
  | number | integer | float | string | sequence | iterable | mapping
  | startingWith | endingWith | upper | lower
  | sameAs | isIn | equal | notEqual | less | lessEqual | greater | greaterEqual
  deriving Repr, DecidableEq

namespace Test

/-- The test of a name; some have several. -/
def ofName? (name : String) : Option Test :=
  match name with
  | "undefined" => some .isUndefined
  | "defined" => some .isDefined
  | "none" => some .isNone
  | "true" => some .isTrue
  | "false" => some .isFalse
  | "boolean" => some .isBoolean
  | "odd" => some .odd
  | "even" => some .even
  | "divisibleby" => some .divisibleBy
  | "number" => some .number
  | "integer" => some .integer
  | "int" => some .integer
  | "float" => some .float
  | "string" => some .string
  | "sequence" => some .sequence
  | "iterable" => some .iterable
  | "mapping" => some .mapping
  | "startingwith" => some .startingWith
  | "endingwith" => some .endingWith
  | "upper" => some .upper
  | "lower" => some .lower
  | "sameas" => some .sameAs
  | "in" => some .isIn
  | "eq" => some .equal
  | "equalto" => some .equal
  | "==" => some .equal
  | "ne" => some .notEqual
  | "!=" => some .notEqual
  | "lt" => some .less
  | "lessthan" => some .less
  | "<" => some .less
  | "le" => some .lessEqual
  | "<=" => some .lessEqual
  | "gt" => some .greater
  | "greaterthan" => some .greater
  | ">" => some .greater
  | "ge" => some .greaterEqual
  | ">=" => some .greaterEqual
  | _ => none

/-- Whether the first number is a multiple of the second. -/
def isMultiple (a b : Value) : Bool :=
  match Value.coerceExactly a b with
  | some (.ints m n) => n != 0 && m % n = 0
  | some (.floats f g) => Decimal.remainder f g == 0.0
  | _ => false

/-- Whether two values are one and the same.  Lists and maps are the same only when
    they come from one place in the data. -/
def areSame (a b : Value) : Bool :=
  match a, b with
  | .list _ p, .list _ q => p.isSome && p = q
  | .map _ p, .map _ q => p.isSome && p = q
  | .iterator _, .iterator _ => false
  | .int m, .int n => m = n
  | .int _, _ => false
  | _, .int _ => false
  | a, b => a.kind = b.kind && Value.equal a b

/-- Tests without an argument that any value can take. -/
def holdsOf? (t : Test) (v : Value) : Option Bool :=
  match t with
  | .isUndefined => some v.isUndefined
  | .isDefined => some !v.isUndefined
  | .isNone => some (match v with | .none => true | _ => false)
  | .isTrue => some (match v with | .bool true => true | _ => false)
  | .isFalse => some (match v with | .bool false => true | _ => false)
  | .isBoolean => some (v.kind = .bool)
  | .odd => some (match v.wholeNumber? with | some n => n % 2 != 0 | Option.none => false)
  | .even => some (match v.wholeNumber? with | some n => n % 2 == 0 | Option.none => false)
  | .number => some (v.kind = .number)
  | .integer => some (match v with | .int _ => true | _ => false)
  | .float => some (match v with | .float _ => true | _ => false)
  | .string => some (v.kind = .text)
  | .sequence => some (v.kind = .list)
  | .iterable => some v.items?.isSome
  | .mapping => some (v.kind = .map)
  | _ => none

/-- The case that every character of a text has to have. -/
def caseOf? (t : Test) : Option (Char → Bool) :=
  match t with
  | .upper => some Unicode.isUppercase
  | .lower => some Unicode.isLowercase
  | _ => none

/-- Tests with one argument. -/
def holdsFor (t : Test) (a b : Value) : Except Fault Bool :=
  match t with
  | .divisibleBy => .ok (isMultiple a b)
  | .startingWith => .ok (b.display.toList.isPrefixOf a.display.toList)
  | .endingWith => .ok (b.display.toList.isSuffixOf a.display.toList)
  | .sameAs => .ok (areSame a b)
  | .isIn => .ok ((Value.holds b a).toOption.getD false)
  | .equal => .ok (Value.equal a b)
  | .notEqual => .ok !(Value.equal a b)
  | .less => .ok (Value.compareValues a b == .lt)
  | .lessEqual => .ok (Value.compareValues a b != .gt)
  | .greater => .ok (Value.compareValues a b == .gt)
  | .greaterEqual => .ok (Value.compareValues a b != .lt)
  | _ => .error .badArgument

/-- How many arguments of the test are read as texts. -/
def textCount (t : Test) : Nat :=
  match t with
  | .startingWith => 1
  | .endingWith => 1
  | _ => 0

/-- Whether a value passes the test. -/
def check (t : Test) (v : Value) (args : List Value) : Except Fault Bool :=
  match t.holdsOf? v, t.caseOf? with
  | some b, _ => do
    noArguments args
    return b
  | none, some hasCase => do
    noArguments args
    match v with
    | .text s => return s.toList.all hasCase
    | _ => throw .badArgument
  | none, none => do
    let other ← oneArgument args
    t.holdsFor v other

end Test

end EventAlerts.Expr
