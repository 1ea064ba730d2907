/-
  EventAlerts/Expr/Call.lean
  ==========================
  **Arguments** — what filters, tests and functions are called with, and how they
  read it.  A callee that knows no names takes the named arguments as one map behind
  the others.
-/
import EventAlerts.Expr.Operator

namespace EventAlerts.Expr

/-- The arguments of a call.  `named` is absent when the call names none.  The names
    are texts, except those of a map that is passed as named arguments. -/
structure Arguments where
  positional : List Value := []
  named : Option (List (Value × Value)) := none

namespace Arguments

/-- The arguments by place, the named ones as a map behind them. -/
def flat (args : Arguments) : List Value :=
  match args.named with
  | none => args.positional
  | some named => args.positional ++ [Value.sortedMap named]

/-- The last argument with the name. -/
def last? (args : Arguments) (name : String) : Option Value :=
  ((args.named.getD []).reverse.find? fun e => e.1.text? = some name).map Prod.snd

/-- The last argument with the name, if it is given and not absent. -/
def named? (args : Arguments) (name : String) : Option Value :=
  (args.last? name).filter fun v => !v.isAbsent

/-- Fails unless every named argument has one of the names. -/
def onlyNames (args : Arguments) (known : List String) : Except Fault Unit :=
  if (args.named.getD []).all fun e => e.1.text?.any known.contains then .ok ()
  else .error .tooManyArguments

/-- Fails when the map of named arguments is among the first `count` arguments, where a
    callee wants texts.  Any other value is shown as text. -/
def textsFirst (args : Arguments) (count : Nat) : Except Fault Unit :=
  if args.named.isSome && args.positional.length < count then .error .badArgument else .ok ()

/-- Fails when there are more arguments by place than `most`. -/
def atMost (args : Arguments) (most : Nat) : Except Fault Unit :=
  if args.positional.length ≤ most then .ok () else .error .tooManyArguments

/-- A named truth value; absent means false. -/
def flag (args : Arguments) (name : String) : Except Fault Bool :=
  match args.named? name with
  | none => .ok false
  | some (.bool b) => .ok b
  | some _ => .error .badArgument

/-- A named text. -/
def namedText? (args : Arguments) (name : String) : Except Fault (Option String) :=
  match args.named? name with
  | none => .ok none
  | some (.text s) => .ok (some s)
  | some _ => .error .badArgument

end Arguments

/-- Exactly no argument. -/
def noArguments (args : List Value) : Except Fault Unit :=
  if args.isEmpty then .ok () else .error .tooManyArguments

/-- Exactly one argument. -/
def oneArgument (args : List Value) : Except Fault Value :=
  match args with
  | [] => .error .missingArgument
  | [v] => .ok v
  | _ => .error .tooManyArguments

/-- Up to one optional argument. -/
def optionalArgument (args : List Value) : Except Fault (Option Value) :=
  match args with
  | [] => .ok none
  | [v] => .ok (if v.isAbsent then none else some v)
  | _ => .error .tooManyArguments

/-- The items that a loop over the value runs through. -/
def loopItems (v : Value) : Except Fault (List Value) :=
  match v.items? with
  | some items => .ok items
  | none => .error .badArgument

/-! ### Attribute paths -/

/-- One step of an attribute path: a whole number of 64 bits, also behind a plus, is
    an index, another part a name. -/
def pathStep (v : Value) (part : List Char) : Except Fault Value :=
  match v with
  | .undefined => .error .absentAttribute
  | v =>
    match (Decimal.readUnsigned? 10 part).filter (· < Nat.pow 2 64) with
    | some n => .ok (v.item (.int n))
    | none => .ok (v.attr (String.ofList part))

/-- The value at a path of attributes with points between them. -/
def pathValue (v : Value) (path : String) : Except Fault Value :=
  (Text.splitOn ['.'] path.toList).foldlM pathStep v

end EventAlerts.Expr
