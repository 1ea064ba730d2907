/-
  EventAlerts/Engine/Pipeline.lean
  ================================
  **What a rule does about an occurrence** — from the gate for cancelled occurrences
  over destinations and conditions to the messages.

  Destinations are looked up for the whole rule; conditions and messages are worked
  out for each destination by itself.  A false condition leaves a destination out; a
  condition that cannot be evaluated ends the rule, also for destinations before.
  Delivering goes on behind a delivery that fails.
-/
import EventAlerts.Messaging.Delivery
import EventAlerts.Occurrence.Basic
import EventAlerts.Render.Message
import EventAlerts.Rule.Basic

namespace EventAlerts

open EventAlerts.Expr (Bindings)
open EventAlerts.Rule (Trigger)

/-- How a rule ended for an occurrence. -/
inductive Outcome
  /-- No trigger accepted the occurrence. -/
  | notMatched
  /-- The occurrence was cancelled, and the rule leaves such occurrences alone. -/
  | cancelled
  /-- No destination was found. -/
  | noDestinations
  /-- A condition was false, and no message was left to send. -/
  | conditionsFailed
  /-- A condition could not be evaluated. -/
  | conditionError
  /-- Every message was empty. -/
  | empty
  /-- This many messages were delivered, and this many could not be. -/
  | delivered (sent failed : Nat)
  deriving Repr, DecidableEq, Inhabited

/-- How many messages were delivered. -/
def Outcome.sent : Outcome → Nat
  | .delivered sent _ => sent
  | _ => 0

/-! ### Conditions -/

/-- What conditions say together. -/
inductive Verdict
  | holds
  | fails
  /-- One cannot be evaluated. -/
  | error
  deriving Repr, DecidableEq

/-- Evaluates conditions up to the first that does not hold. -/
def verdict (bindings : Bindings) : List String → Verdict
  | [] => .holds
  | c :: rest =>
    match Expr.condition c bindings with
    | .ok true => verdict bindings rest
    | .ok false => .fails
    | .error _ => .error

/-! ### Messages -/

/-- What a rule reads besides the occurrence. -/
structure Surroundings where
  directory : Directory := {}
  environment : Environment
  now : Time.Stamp := ⟨0⟩

/-- What is left to do for a rule. -/
inductive Prepared
  | skip (outcome : Outcome)
  /-- These messages are to be sent. -/
  | deliver (sendings : List Sending)
  deriving Repr, DecidableEq

/-- The result of preparing a rule, with the lookups that were made. -/
structure Preparation where
  result : Prepared
  lookups : List Lookup := []
  deriving Repr, DecidableEq

namespace AlertRule

/-- What expressions see of an occurrence at a destination. -/
def bindingsAt (s : Surroundings) (o : Occurrence) (base : OccurrenceContext)
    (d : Destination) : Bindings :=
  ((base.renderContext o.snapshot s.environment.server s.directory.identity).forDestination
    d).bindings

/-- The message of a rule for a destination. -/
def renderAt (r : AlertRule) (s : Surroundings) (base : OccurrenceContext)
    (bindings : Bindings) : Render.Rendered :=
  Render.Scope.render
    { bindings := bindings, actor := base.actor, bot := s.directory.identity
      directory := s.directory, environment := s.environment, now := s.now } r.template

/-- The messages for destinations, and whether a condition left one out; nothing if a
    condition cannot be evaluated. -/
def messagesFor (r : AlertRule) (s : Surroundings) (o : Occurrence) (base : OccurrenceContext) :
    List Destination → Option (Bool × List Sending)
  | [] => some (false, [])
  | d :: rest =>
    let bindings := bindingsAt s o base d
    match verdict bindings r.conditions with
    | .error => none
    | .fails => (messagesFor r s o base rest).map fun (_, sendings) => (true, sendings)
    | .holds =>
      (messagesFor r s o base rest).map fun (blocked, sendings) =>
        let rendered := r.renderAt s base bindings
        if rendered.message.isEmpty then (blocked, sendings)
        else
          (blocked,
            { destination := d, identity := rendered.identity, message := rendered.message }
              :: sendings)

/-- What is to be done about an occurrence that some triggers accept. -/
def prepare (r : AlertRule) (s : Surroundings) (matched : List Trigger) (o : Occurrence)
    (base : OccurrenceContext) : Preparation :=
  if matched.isEmpty then { result := .skip .notMatched }
  else if r.ignoreCancelled && o.cancelled = some true then { result := .skip .cancelled }
  else
    let resolution := s.directory.resolve r.destinations.toList
    let result : Prepared :=
      if resolution.found.isEmpty then .skip .noDestinations
      else
        match r.messagesFor s o base resolution.found with
        | none => .skip .conditionError
        | some (blocked, []) => .skip (if blocked then .conditionsFailed else .empty)
        | some (_, sendings) => .deliver sendings
    { result := result, lookups := resolution.lookups }

end AlertRule

/-! ### Delivering -/

/-- How many messages of a rule were delivered so far, and how many could not be. -/
structure Tally where
  sent : Nat := 0
  failed : Nat := 0
  deriving Repr, DecidableEq, Inhabited

namespace Tally

/-- The outcome if nothing is left to send. -/
def outcome (t : Tally) : Outcome := .delivered t.sent t.failed

/-- Counts an attempt, which failed or not. -/
def count (t : Tally) (failed : Bool) : Tally :=
  if failed then { t with failed := t.failed + 1 } else { t with sent := t.sent + 1 }

end Tally

/-- Sends messages one after the other. -/
def Recorder.deliver (r : Recorder) (t : Tally) : List Sending → Outcome × Recorder
  | [] => (t.outcome, r)
  | s :: rest =>
    let (failure, r) := r.send s
    r.deliver (t.count failure.isSome) rest

/-- Does what was prepared. -/
def Recorder.carryOut (r : Recorder) (p : Preparation) : Outcome × Recorder :=
  let r := r.logLookups p.lookups
  match p.result with
  | .skip outcome => (outcome, r)
  | .deliver sendings => r.deliver {} sendings

/-- Everything that a rule does about an occurrence at once. -/
def AlertRule.run (r : AlertRule) (s : Surroundings) (matched : List Trigger) (o : Occurrence)
    (base : OccurrenceContext) (platform : Recorder) : Outcome × Recorder :=
  platform.carryOut (r.prepare s matched o base)

end EventAlerts
