/-
  EventAlerts/Expr/Error.lean
  ===========================
  **What goes wrong in an expression** — an expression that is no expression, and the
  reasons why the evaluation of one stops.
-/
import EventAlerts.Text.Quoted

namespace EventAlerts.Expr

/-- Why an evaluation stops. -/
inductive Fault
  /-- An operation has no meaning for its operands. -/
  | badOperands
  /-- The result does not fit the numbers of the language. -/
  | overflow
  | divisionByZero
  /-- A filter, test or function got a value it cannot use. -/
  | badArgument
  | missingArgument
  | tooManyArguments
  | unknownFilter (name : String)
  | unknownTest (name : String)
  | unknownFunction (name : String)
  | unknownMethod (name : String)
  | notCallable
  /-- An attribute path leads through an absent value. -/
  | absentAttribute
  deriving Repr, DecidableEq

/-- Why an expression has no value. -/
inductive ExprError
  | malformed (source : String)
  | failed (source : String) (fault : Fault)
  deriving Repr, DecidableEq

/-- The sentence that reports an error, without its explanation. -/
def ExprError.message : ExprError → String
  | .malformed source => "failed to parse expression " ++ Text.quoted source
  | .failed source _ => "failed to evaluate expression " ++ Text.quoted source

end EventAlerts.Expr
