/-
  EventAlerts/Expr/Eval.lean
  ==========================
  **Evaluation** — the value of an expression under bindings of its variables.

  A name without a binding, an attribute that does not exist and an item out of range
  are `undefined`, and so is everything read from an undefined value.  `and` and `or`
  give the operand that decides them.  Constants are computed first: a constant `and`
  with a side that is not true is `false`, whatever that side is.

  Nothing an expression does changes anything: evaluation is a function of the tree
  and the bindings.
-/
import EventAlerts.Expr.Filter
import EventAlerts.Expr.Parser

namespace EventAlerts.Expr

/-- The variables of an expression. -/
abbrev Bindings := List (String × Value)

namespace Bindings

/-- The value bound to a name. -/
def find? (bindings : Bindings) (name : String) : Option Value :=
  (List.find? (fun b => b.1 == name) bindings).map Prod.snd

end Bindings

/-- The function of a name. -/
def Function.ofName? (name : String) : Option Function :=
  if name = "range" then some .range
  else if name = "dict" then some .dict
  else none

/-- The value of a name: its binding, or else the function of that name. -/
def lookup (bindings : Bindings) (name : String) : Value :=
  match (bindings.find? name).filter fun v => !v.isUndefined with
  | some v => v
  | none =>
    match Function.ofName? name with
    | some f => .function f
    | none => .undefined

/-! ### Functions -/

/-- The most numbers that `range` gives. -/
def maxRange : Nat := 100000

/-- How many steps lead from `start` toward `stop` without reaching it. -/
def stepCount (start stop step : Int) : Nat :=
  if 0 < step then ((stop - start + step - 1) / step).toNat
  else ((start - stop + -step - 1) / -step).toNat

/-- The numbers from `start` up to `stop`, `step` apart. -/
def rangeOf (start stop step : Int) : Except Fault Value :=
  if step = 0 then .error .badArgument
  else if maxRange < stepCount start stop step then .error .badArgument
  else .ok (.iterator ((List.range (stepCount start stop step)).map fun (i : Nat) =>
    .int (start + step * (i : Int))))

/-- A whole number that an argument gives. -/
def intArgument (v : Value) : Except Fault Int :=
  match v.index? with
  | some n => .ok n
  | none => .error .badArgument

/-- A whole number that an argument gives unless it is absent. -/
def optionalInt (v : Value) : Except Fault (Option Int) :=
  if v.isAbsent then .ok none else (intArgument v).map some

/-- Calls a function. -/
def Function.call (f : Function) (args : Arguments) : Except Fault Value :=
  match f with
  | .range => do
    match args.flat with
    | [] => throw .missingArgument
    | [stop] => rangeOf 0 (← intArgument stop) 1
    | [a, b] =>
      match ← optionalInt b with
      | some stop => rangeOf (← intArgument a) stop 1
      | none => rangeOf 0 (← intArgument a) 1
    | [a, b, c] => do
      let step := (← optionalInt c).getD 1
      match ← optionalInt b with
      | some stop => rangeOf (← intArgument a) stop step
      | none => rangeOf 0 (← intArgument a) step
    | _ => throw .tooManyArguments
  | .dict => do
    let named := args.named.getD []
    match args.positional with
    | [] => return Value.sortedMap named
    | [.undefined] => return Value.sortedMap named
    | [.none] => return Value.sortedMap named
    | [.map entries _] => return Value.sortedMap (entries ++ named)
    | [_] => throw .badArgument
    | _ => throw .tooManyArguments

/-- Calls a value. -/
def Value.call (v : Value) (args : Arguments) : Except Fault Value :=
  match v with
  | .function f => f.call args
  | _ => .error .notCallable

/-! ### Constants -/

/-- Whether a comparison holds. -/
def Comparison.holds (op : Comparison) (a b : Value) : Except Fault Bool :=
  match op with
  | .equal => .ok (Value.equal a b)
  | .notEqual => .ok !(Value.equal a b)
  | .less => .ok (Value.compareValues a b == .lt)
  | .lessEqual => .ok (Value.compareValues a b != .gt)
  | .greater => .ok (Value.compareValues a b == .gt)
  | .greaterEqual => .ok (Value.compareValues a b != .lt)
  | .isIn => Value.holds b a
  | .notIn => (Value.holds b a).map not

/-- The result of a binary operator. -/
def Binary.apply (op : Binary) (a b : Value) : Except Fault Value :=
  match op with
  | .add => Value.add a b
  | .sub => Value.sub a b
  | .mul => Value.mul a b
  | .div => Value.div a b
  | .floorDiv => Value.floorDiv a b
  | .rem => Value.rem a b
  | .pow => Value.pow a b
  | .concat => .ok (Value.concat a b)

/-- The values of items that are all written as literals. -/
def literals? : List Term → Option (List Value)
  | [] => some []
  | .literal v :: rest => (literals? rest).map (v :: ·)
  | _ :: _ => none

/-- The entries of a map whose keys and values are all written as literals. -/
def literalEntries? : List (Term × Term) → Option (List (Value × Value))
  | [] => some []
  | (.literal k, .literal v) :: rest => (literalEntries? rest).map ((k, v) :: ·)
  | _ :: _ => none

mutual

/-- The value of an expression of literals and operators, if every operation in it
    succeeds. -/
def Term.constant? : Term → Option Value
  | .literal v => some v
  | .list items => (literals? items).map fun vs => .list vs
  | .map entries => (literalEntries? entries).map Value.sortedMap
  | .not e => (Term.constant? e).map fun v => .bool !v.isTrue
  | .negate e => (Term.constant? e).bind fun v => (Value.neg v).toOption
  | .binary op left right =>
    match Term.constant? left, Term.constant? right with
    | some a, some b => (op.apply a b).toOption
    | _, _ => none
  | .compare first rest => (Term.constant? first).bind fun v => (constantChain? v rest).map .bool
  | .and left right =>
    match Term.constant? left, Term.constant? right with
    | some a, some b => some (if a.isTrue && b.isTrue then b else .bool false)
    | _, _ => none
  | .or left right =>
    match Term.constant? left, Term.constant? right with
    | some a, some b => some (if a.isTrue then a else b)
    | _, _ => none
  | _ => none

/-- Whether all comparisons of a chain of constants hold.  What stands behind the first
    that does not hold need not be constant. -/
def constantChain? (left : Value) : List (Comparison × Term) → Option Bool
  | [] => some true
  | (op, e) :: rest =>
    match Term.constant? e with
    | some right =>
      match op.holds left right with
      | .ok true => constantChain? right rest
      | .ok false => some false
      | .error _ => none
    | none => none

end

/-! ### Evaluation -/

/-- A slice bound that is not written is absent. -/
def absentBound : Value := .none

/-- The entries of a map value that is passed as named arguments. -/
def namedEntries (v : Value) : Except Fault (List (Value × Value)) :=
  match v with
  | .map entries _ => .ok entries
  | .undefined => .ok []
  | _ => .error .badArgument

/-- Adds names to arguments. -/
def Arguments.withNames (args : Arguments) (named : List (Value × Value)) : Arguments :=
  { args with named := some (named ++ args.named.getD []) }

mutual

/-- The value of an expression. -/
def Term.eval (bindings : Bindings) : Term → Except Fault Value
  | .literal v => .ok v
  | .variable name => .ok (lookup bindings name)
  | .list items => do return .list (← evalItems bindings items)
  | .map entries => do return Value.sortedMap (← evalEntries bindings entries)
  | .negate e => do Value.neg (← e.eval bindings)
  | .not e => do return .bool !(← e.eval bindings).isTrue
  | .binary op left right => do
    let a ← left.eval bindings
    let b ← right.eval bindings
    op.apply a b
  | .compare first rest => do
    let v ← first.eval bindings
    return .bool (← evalChain bindings v rest)
  | .and left right =>
    match (Term.and left right).constant? with
    | some v => .ok v
    | none => do
      let a ← left.eval bindings
      if a.isTrue then right.eval bindings else return a
  | .or left right => do
    let a ← left.eval bindings
    if a.isTrue then return a else right.eval bindings
  | .ifElse condition yes no => do
    if (← condition.eval bindings).isTrue then yes.eval bindings
    else match no with
      | some no => no.eval bindings
      | none => return .undefined
  | .attr e name => do return (← e.eval bindings).attr name
  | .item e key => do
    let v ← e.eval bindings
    return v.item (← key.eval bindings)
  | .slice e start stop step => do
    let v ← e.eval bindings
    let start ← match start with
      | some e => e.eval bindings
      | none => .ok absentBound
    let stop ← match stop with
      | some e => e.eval bindings
      | none => .ok absentBound
    let step ← match step with
      | some e => e.eval bindings
      | none => .ok absentBound
    v.slice start stop step
  | .call (.variable name) args => do
    let args ← evalArgs bindings args
    match lookup bindings name with
    | .undefined => throw (.unknownFunction name)
    | f => f.call args
  | .call (.attr e name) args => do
    let v ← e.eval bindings
    let args ← evalArgs bindings args
    match v, v.attr name with
    | .map _ _, .undefined => throw (.unknownMethod name)
    | .map _ _, f => f.call args
    | _, _ => throw (.unknownMethod name)
  | .call callee args => do
    let f ← callee.eval bindings
    f.call (← evalArgs bindings args)
  | .filter name e args => do
    let v ← e.eval bindings
    let args ← evalArgs bindings args
    match Filter.ofName? name with
    | some f => f.apply v args
    | none => throw (.unknownFilter name)
  | .test name e args => do
    let v ← e.eval bindings
    let args ← evalArgs bindings args
    match Test.ofName? name with
    | some t => do
      args.textsFirst t.textCount
      return .bool (← t.check v args.flat)
    | none => throw (.unknownTest name)

def evalItems (bindings : Bindings) : List Term → Except Fault (List Value)
  | [] => .ok []
  | e :: rest => do
    let v ← e.eval bindings
    return v :: (← evalItems bindings rest)

def evalEntries (bindings : Bindings) : List (Term × Term) → Except Fault (List (Value × Value))
  | [] => .ok []
  | (k, e) :: rest => do
    let k ← k.eval bindings
    let v ← e.eval bindings
    return (k, v) :: (← evalEntries bindings rest)

/-- Whether all comparisons of a chain hold; the first that does not ends it. -/
def evalChain (bindings : Bindings) (left : Value) : List (Comparison × Term) → Except Fault Bool
  | [] => .ok true
  | (op, e) :: rest => do
    let right ← e.eval bindings
    if ← op.holds left right then evalChain bindings right rest else return false

def evalArgs (bindings : Bindings) : List Arg → Except Fault Arguments
  | [] => .ok {}
  | .positional e :: rest => do
    let v ← e.eval bindings
    let args ← evalArgs bindings rest
    return { args with positional := v :: args.positional }
  | .spread e :: rest => do
    let items ← loopItems (← e.eval bindings)
    let args ← evalArgs bindings rest
    return { args with positional := items ++ args.positional }
  | .named name e :: rest => do
    let v ← e.eval bindings
    return (← evalArgs bindings rest).withNames [(.text name, v)]
  | .spreadNamed e :: rest => do
    let named ← namedEntries (← e.eval bindings)
    return (← evalArgs bindings rest).withNames named

end

/-! ### Expressions as texts -/

/-- The value of the expression that a text holds. -/
def evaluate (source : String) (bindings : Bindings) : Except ExprError Value :=
  match Term.parse? source with
  | none => .error (.malformed source)
  | some e =>
    match e.eval bindings with
    | .ok v => .ok v
    | .error fault => .error (.failed source fault)

/-- Whether a condition lets an alert pass: only the truth value `false` blocks. -/
def condition (source : String) (bindings : Bindings) : Except ExprError Bool :=
  (evaluate source bindings).map fun v =>
    match v with
    | .bool false => false
    | _ => true

end EventAlerts.Expr
