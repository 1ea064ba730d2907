/-
  EventAlerts/Engine/Basic.lean
  =============================
  **The alert engine** — rules, a host that is followed, and a platform to send to.

  The engine is one handler.  It follows the host while there are rules.  What a
  dispatch leaves for later is kept as tasks, which `run` takes up in order.  A task sees
  the occurrence, the directory, the environment and the clock as they are when it is
  taken up, and the rules as they were when it was left.

  A dispatch that an overrun has cut short reports it to whoever brought the occurrence,
  and so does a fire.  The engine goes on with what the dispatch has left by then.
-/
import EventAlerts.Engine.Dispatch
import EventAlerts.Engine.Outbox
import EventAlerts.Engine.Store
import EventAlerts.Host.Subscription

namespace EventAlerts

open EventAlerts.Rule (Overrun Resolver)
open EventAlerts.Time (Clock Span Stamp)

/-- An occurrence that was dispatched. -/
structure Dispatch where
  occurrence : Occurrence
  base : OccurrenceContext
  /-- One for every rule that was reached, in order; nothing for a rule that has not ended. -/
  outcomes : List (Option Outcome)
  /-- Whether an overrun kept rules from being reached. -/
  cut : Bool := false

namespace Dispatch

/-- The outcomes, once all rules have ended.  Nobody gets those of a dispatch that was cut
    short. -/
def finished? (d : Dispatch) : Option (List Outcome) :=
  if d.cut then none else d.outcomes.mapM id

/-- Whether all rules that were reached have ended. -/
def isFinished (d : Dispatch) : Bool := d.outcomes.all Option.isSome

/-- Notes the outcome of a rule. -/
def finish (d : Dispatch) (rule : Nat) (outcome : Outcome) : Dispatch :=
  { d with outcomes := d.outcomes.set rule (some outcome) }

end Dispatch

/-- Something to be taken up. -/
inductive Task
  | start (ticket : Ticket) (work : Work)
  | resume (paused : Paused)
  deriving Repr, DecidableEq

/-- The piece of work that a task belongs to. -/
def Task.ticket : Task → Ticket
  | .start ticket _ => ticket
  | .resume paused => paused.ticket

/-- An engine with all it is connected to. -/
structure Engine where
  environment : Environment
  source : RuleSource := .fixed []
  clock : Clock := {}
  store : AlertStore := {}
  resolver : Resolver
  host : Host := {}
  subscription : Subscription
  outbox : Outbox := {}
  dispatches : List Dispatch := []
  /-- In the order they are taken up. -/
  tasks : List Task := []

namespace Engine

/-- What the engine goes by as a handler. -/
def handler : HandlerId := "engine"

/-- An engine that has loaded nothing yet. -/
def ofParts (settings : EngineSettings) (environment : Environment) (host : Host)
    (directory : Directory) (now : Stamp) : Engine :=
  { environment := environment
    clock := Clock.startingAt now
    resolver := { lifetime := settings.categoryLifetime }
    host := host
    subscription := Subscription.ofHandler handler settings.pollInterval
    outbox := { platform := { directory := directory } } }

/-! ### Rules and the host -/

def withSource (e : Engine) (source : RuleSource) : Engine := { e with source := source }

/-- Follows the host. -/
def follow (e : Engine) : Engine :=
  let (_, subscription, host) := e.subscription.register e.host
  { e with subscription := subscription, host := host }

/-- Stops following the host. -/
def shutdown (e : Engine) : Engine :=
  let (subscription, host) := e.subscription.unregister e.host
  { e with subscription := subscription, host := host }

/-- Loads the rules anew and follows the host if there are any.  Category names are
    forgotten in any case.  If the rules cannot be loaded, all else stays. -/
def reload (e : Engine) : Except ConfigError Nat × Engine :=
  let e := { e with resolver := e.resolver.clear }
  match e.source.load with
  | .error err => (.error err, e)
  | .ok rules =>
    let e := { e with store := e.store.replace rules }
    (.ok e.store.size, if e.store.isEmpty then e.shutdown else e.follow)

/-! ### Occurrences -/

/-- What rendering sees of the engine. -/
def surroundings (e : Engine) : Surroundings :=
  { directory := e.outbox.platform.directory, environment := e.environment, now := e.clock.wall }

/-- The outcome that a rule has at once. -/
def outcomeAtOnce? : Disposition → Option Outcome
  | .settled outcome => some outcome
  | .left _ => none

/-- The tasks that rules leave, numbered from a place on. -/
def tasksLeft (dispatch : Nat) : Nat → List Disposition → List Task
  | _, [] => []
  | rule, .settled _ :: rest => tasksLeft dispatch (rule + 1) rest
  | rule, .left work :: rest =>
    .start { dispatch := dispatch, rule := rule } work :: tasksLeft dispatch (rule + 1) rest

/-- Takes up an occurrence.  The number is that of the dispatch. -/
def dispatch (e : Engine) (o : Occurrence) : Except Overrun Nat × Engine :=
  let base := OccurrenceContext.ofOccurrence o
  let d := dispatchRules e.surroundings o base e.clock.elapsed e.resolver e.store.rules
  let number := e.dispatches.length
  (if d.cut then .error {} else .ok number,
    { e with
      resolver := d.resolver
      outbox := { e.outbox with platform := e.outbox.platform.logLookups d.lookups }
      dispatches := e.dispatches ++
        [{ occurrence := o, base := base, outcomes := d.each.map outcomeAtOnce?, cut := d.cut }]
      tasks := e.tasks ++ tasksLeft number 0 d.each })

/-- Hands an occurrence to the handlers of a registry, one after the other. -/
def handOver (e : Engine) (o : Occurrence) : List HandlerId → Except Overrun Unit × Engine
  | [] => (.ok (), e)
  | h :: rest =>
    if h = e.subscription.handler then
      match e.dispatch o with
      | (.error err, e) => (.error err, e)
      | (.ok _, e) => e.handOver o rest
    else e.handOver o rest

/-- Lets an occurrence come through the host. -/
def fire (e : Engine) (category : String) (o : Occurrence) : Except Overrun Unit × Engine :=
  let (handlers, host, _) := e.host.fire category
  { e with host := host }.handOver o handlers

/-- Sets whether a dispatched occurrence is cancelled; the answer says whether it can be. -/
def setCancelled (e : Engine) (number : Nat) (value : Bool) : Bool × Engine :=
  match e.dispatches[number]? with
  | none => (false, e)
  | some d =>
    (d.occurrence.isCancellable,
      { e with
        dispatches :=
          e.dispatches.set number { d with occurrence := d.occurrence.setCancelled value } })

/-- The outcomes of a dispatch, once all its rules have ended. -/
def outcomes? (e : Engine) (number : Nat) : Option (List Outcome) :=
  e.dispatches[number]?.bind Dispatch.finished?

/-! ### Taking up tasks -/

/-- Notes the outcome of a piece of work, if it has ended. -/
def note (e : Engine) (ticket : Ticket) : Option Outcome → Engine
  | none => e
  | some outcome =>
    { e with dispatches := e.dispatches.modify ticket.dispatch fun d => d.finish ticket.rule outcome }

/-- Takes up a task. -/
def take (e : Engine) : Task → Engine
  | .resume paused =>
    let (outcome?, outbox) := e.outbox.resume paused
    { e with outbox := outbox }.note paused.ticket outcome?
  | .start ticket work =>
    match e.dispatches[ticket.dispatch]? with
    | none => e
    | some d =>
      let (outcome?, outbox) :=
        e.outbox.carryOut ticket (work.prepare e.surroundings d.occurrence d.base)
      { e with outbox := outbox }.note ticket outcome?

/-- Takes up all tasks. -/
def work (e : Engine) : Engine := e.tasks.foldl take { e with tasks := [] }

/-- Looks for new registries, if that is due in a stretch of time. -/
def poll (e : Engine) (start stop : Span) : Engine :=
  let (subscription, host) := e.subscription.run e.host start stop
  { e with subscription := subscription, host := host }

/-- Takes up all that can be done now. -/
def run (e : Engine) : Engine := (e.poll e.clock.elapsed e.clock.elapsed).work

/-- Waits for a dispatch, as long as something can be done.  There is nothing to wait for
    if all its rules have ended. -/
def await (e : Engine) (number : Nat) : Engine :=
  if (e.outcomes? number).isSome then e else e.run

/-- Waits for all dispatches, as long as something can be done. -/
def settle (e : Engine) : Engine := if e.dispatches.all Dispatch.isFinished then e else e.run

/-- Lets time go on, if the clock can, and takes up all that can be done. -/
def advance? (e : Engine) (span : Span) : Option Engine :=
  (e.clock.advance? span).map fun clock =>
    ({ e with clock := clock }.poll e.clock.elapsed clock.elapsed).work

/-! ### Gates -/

/-- Lets the messages to a destination wait from now on. -/
def hold (e : Engine) (id : String) : Engine := { e with outbox := e.outbox.hold id }

/-- Lets one message to a destination go on. -/
def letGo (e : Engine) (id : String) : Engine :=
  let (paused?, outbox) := e.outbox.release id
  { e with outbox := outbox, tasks := e.tasks ++ (paused?.map Task.resume).toList }

/-- Lets one message to a destination go on, and takes up all that can be done. -/
def release (e : Engine) (id : String) : Engine := (e.letGo id).run

end Engine

end EventAlerts
