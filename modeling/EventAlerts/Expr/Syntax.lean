/-
  EventAlerts/Expr/Syntax.lean
  ============================
  **Expression trees** — what the parser builds and the evaluator walks.
-/
import EventAlerts.Expr.Value

namespace EventAlerts.Expr

/-- The comparisons, which chain: `a < b < c` compares `a` with `b` and `b` with `c`. -/
inductive Comparison
  | equal | notEqual | less | lessEqual | greater | greaterEqual | isIn | notIn
  deriving Repr, DecidableEq

/-- The operators that compute with two values. -/
inductive Binary
  | add | sub | mul | div | floorDiv | rem | pow | concat
  deriving Repr, DecidableEq

mutual

inductive Term
  | literal (value : Value)
  | variable (name : String)
  | list (items : List Term)
  | map (entries : List (Term × Term))
  | negate (e : Term)
  | not (e : Term)
  | binary (op : Binary) (left right : Term)
  | compare (first : Term) (rest : List (Comparison × Term))
  | and (left right : Term)
  | or (left right : Term)
  | ifElse (condition yes : Term) (no : Option Term)
  | attr (e : Term) (name : String)
  | item (e key : Term)
  | slice (e : Term) (start stop step : Option Term)
  | call (callee : Term) (args : List Arg)
  | filter (name : String) (e : Term) (args : List Arg)
  | test (name : String) (e : Term) (args : List Arg)

/-- An argument of a call: given by place or by name, one value or all of a value. -/
inductive Arg
  | positional (e : Term)
  | named (name : String) (e : Term)
  | spread (e : Term)
  | spreadNamed (e : Term)

end

instance : Inhabited Term := ⟨.literal .undefined⟩

end EventAlerts.Expr
