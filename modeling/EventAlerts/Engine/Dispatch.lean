/-
  EventAlerts/Engine/Dispatch.lean
  ================================
  **Dispatching** — what each rule does at once about an occurrence, and what it leaves
  for later.

  A rule whose triggers accept the occurrence is left for later as a whole, unless the
  rule is synchronous.  A synchronous rule reads everything now and leaves only its
  messages to be sent.  Some categories make every rule synchronous that accepts or
  names them, for what they describe is gone when the host goes on.

  The rules share the cache of category names and nothing else.  An overrun of the cache
  stops a dispatch: what the rules before have left stays, and later rules are not reached.
-/
import EventAlerts.Engine.Pipeline

namespace EventAlerts

open EventAlerts.Rule (Resolver Trigger)
open EventAlerts.Time (Span)

/-- The categories that have to be read before the host goes on. -/
def urgentCategories : List String := ["BlockBreakEvent"]

/-- Whether two texts differ at most in the case of the letters from `a` to `z`. -/
def sameButCase (s t : String) : Bool := s.toList.map Char.toLower = t.toList.map Char.toLower

def isUrgent (category : String) : Bool := urgentCategories.any (sameButCase category)

/-- Whether an occurrence of the category, or one of the triggers, makes a rule
    synchronous. -/
def forcesSync (category : String) (triggers : List Trigger) : Bool :=
  isUrgent category || (triggers.filterMap Trigger.category?).any isUrgent

/-- What is left for later. -/
inductive Work
  /-- All that a rule does, once these triggers have accepted the occurrence. -/
  | rule (rule : AlertRule) (matched : List Trigger)
  /-- Sending messages that are ready. -/
  | messages (sendings : List Sending)
  deriving Repr, DecidableEq

/-- What becomes of a rule at once. -/
inductive Disposition
  | settled (outcome : Outcome)
  | left (work : Work)
  deriving Repr, DecidableEq

namespace Work

/-- What is to be done for a piece of work, as things stand. -/
def prepare (w : Work) (s : Surroundings) (o : Occurrence) (base : OccurrenceContext) :
    Preparation :=
  match w with
  | .rule r matched => r.prepare s matched o base
  | .messages sendings => { result := .deliver sendings }

end Work

namespace AlertRule

/-- Takes up an occurrence, given the rule's effective triggers.  The lookups are those
    made at once. -/
def dispatch (r : AlertRule) (s : Surroundings) (o : Occurrence) (base : OccurrenceContext)
    (effective : List Trigger) : Disposition × List Lookup :=
  let matched := Trigger.matching effective base.category base.command
  if matched.isEmpty then (.settled .notMatched, [])
  else if r.runAsync && !forcesSync base.category effective then
    (.left (.rule r matched), [])
  else
    let p := r.prepare s matched o base
    match p.result with
    | .skip outcome => (.settled outcome, p.lookups)
    | .deliver sendings => (.left (.messages sendings), p.lookups)

end AlertRule

/-- What all rules do at once about an occurrence. -/
structure Dispositions where
  /-- One for every rule that was reached, in order. -/
  each : List Disposition := []
  lookups : List Lookup := []
  resolver : Resolver
  /-- Whether an overrun has stopped the dispatch. -/
  cut : Bool := false

/-- Takes up an occurrence for rules, one after the other. -/
def dispatchRules (s : Surroundings) (o : Occurrence) (base : OccurrenceContext) (now : Span)
    (resolver : Resolver) : List AlertRule → Dispositions
  | [] => { resolver := resolver }
  | r :: rest =>
    match Trigger.resolveAll resolver now r.triggers with
    | (.error _, resolver) => { resolver := resolver, cut := true }
    | (.ok effective, resolver) =>
      let (first, lookups) := r.dispatch s o base effective
      let others := dispatchRules s o base now resolver rest
      { others with each := first :: others.each, lookups := lookups ++ others.lookups }

end EventAlerts
