/-
  EventAlerts/Host/Subscription.lean
  ==================================
  **Following a host** — one handler, kept subscribed to all registries there are and
  to all that come.

  New registries are heard of through an observer.  On a host that does not support
  that they are looked for: when work on the host first goes on after registering, and
  then after every interval.  If the host cannot be observed at all, registering has
  failed for good.
-/
import EventAlerts.Host.Registry
import EventAlerts.Time.Stamp

namespace EventAlerts

open EventAlerts.Time (Span)

/-- When registries are looked for next; not known before the first time. -/
structure Poller where
  next : Option Span := none
  deriving Repr, DecidableEq, Inhabited

namespace Poller

/-- The poller at work from one time to another: whether it looks for registries, and
    when it does so next. -/
def run (p : Poller) (interval start stop : Span) : Bool × Poller :=
  let first := p.next.getD start
  if first ≤ stop then
    (true, { next := some (first + ((stop - first) / interval + 1) * interval) })
  else (false, { next := some first })

end Poller

/-- The subscription of a handler to a host. -/
structure Subscription where
  handler : HandlerId
  pollInterval : Span
  registered : Bool := false
  /-- Whether the host turned out not to be observable. -/
  failed : Bool := false
  observer : Option ObserverId := none
  poller : Option Poller := none
  deriving Repr, DecidableEq, Inhabited

namespace Subscription

/-- The shortest interval: a millisecond. -/
def minPollInterval : Span := Time.nanosPerMilli

/-- A subscription that does not follow its host yet. -/
def ofHandler (handler : HandlerId) (pollInterval : Span) : Subscription :=
  { handler := handler, pollInterval := max pollInterval minPollInterval }

/-- Starts to follow the host; the answer says whether it does. -/
def register (s : Subscription) (h : Host) : Bool × Subscription × Host :=
  if s.registered then (true, s, h)
  else if s.failed then (false, s, h)
  else
    match h.observe (.subscribe s.handler) with
    | .ok (id, h) =>
      (true, { s with registered := true, observer := some id }, h.subscribeAll s.handler)
    | .error .observationUnsupported =>
      (true, { s with registered := true, poller := some {} }, h.subscribeAll s.handler)
    | .error (.inaccessible _) => (false, { s with failed := true }, h)

/-- Stops following the host. -/
def unregister (s : Subscription) (h : Host) : Subscription × Host :=
  if s.registered then
    let unobserved :=
      match s.observer with
      | some id => h.stopObserving id
      | none => h
    ({ s with registered := false, observer := none, poller := none },
      unobserved.unsubscribeAll s.handler)
  else (s, h)

/-- Lets time go on; a poller looks for new registries if it is due. -/
def run (s : Subscription) (h : Host) (start stop : Span) : Subscription × Host :=
  match s.poller with
  | none => (s, h)
  | some p =>
    let (due, p) := p.run s.pollInterval start stop
    ({ s with poller := some p }, if due then h.subscribeAll s.handler else h)

end Subscription

end EventAlerts
