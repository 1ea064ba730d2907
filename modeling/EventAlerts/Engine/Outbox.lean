/-
  EventAlerts/Engine/Outbox.lean
  ==============================
  **Sending** — messages on their way to the platform, through gates.

  A gate belongs to a destination.  A message that comes to a gate waits there, together
  with the messages of its rule that come after it, until the gate lets it through.  A
  gate lets one message through at a time, the one that has waited longest; if none is
  waiting, the next one that comes.
-/
import EventAlerts.Engine.Pipeline

namespace EventAlerts

/-- Which piece of work it is: the dispatch, and the rule's place in it. -/
structure Ticket where
  dispatch : Nat
  rule : Nat
  deriving Repr, DecidableEq, Inhabited

/-- Messages that wait at a gate. -/
structure Paused where
  ticket : Ticket
  tally : Tally
  /-- The message that waits. -/
  next : Sending
  /-- The messages after it. -/
  rest : List Sending
  deriving Repr, DecidableEq

/-- A gate. -/
structure Gate where
  /-- The id of the destination. -/
  destination : String
  /-- Whether the next message may go through. -/
  ajar : Bool := false
  /-- The longest waiting first. -/
  waiting : List Paused := []
  deriving Repr, DecidableEq

/-- The platform behind its gates. -/
structure Outbox where
  platform : Recorder := {}
  /-- At most one for each destination. -/
  gates : List Gate := []
  deriving Repr, DecidableEq, Inhabited

namespace Outbox

/-- The gate of a destination, if there is one. -/
def gate? (o : Outbox) (id : String) : Option Gate := o.gates.find? fun g => g.destination = id

/-- Puts a gate in place of the one that its destination has. -/
def setGate (o : Outbox) (g : Gate) : Outbox :=
  { o with gates := o.gates.map fun old => if old.destination = g.destination then g else old }

/-- Sets up a closed gate.  What waits at a gate that is there already waits for ever. -/
def hold (o : Outbox) (id : String) : Outbox :=
  { o with gates := o.gates.filter (fun g => g.destination ≠ id) ++ [{ destination := id }] }

/-- Lets one message through; the answer is what waited for that. -/
def release (o : Outbox) (id : String) : Option Paused × Outbox :=
  match o.gate? id with
  | none => (none, o)
  | some g =>
    match g.waiting with
    | [] => (none, o.setGate { g with ajar := true })
    | p :: others => (some p, o.setGate { g with waiting := others })

/-- Sends a message to the platform. -/
def send (o : Outbox) (s : Sending) : Option DeliveryError × Outbox :=
  let (failure, platform) := o.platform.send s
  (failure, { o with platform := platform })

/-- Sends messages until one has to wait; there is an outcome if none has to. -/
def deliver (o : Outbox) (ticket : Ticket) (t : Tally) : List Sending → Option Outcome × Outbox
  | [] => (some t.outcome, o)
  | s :: rest =>
    let through (o : Outbox) : Option Outcome × Outbox :=
      let (failure, o) := o.send s
      o.deliver ticket (t.count failure.isSome) rest
    match o.gate? s.destination.id with
    | none => through o
    | some g =>
      if g.ajar then through (o.setGate { g with ajar := false })
      else
        let paused : Paused := { ticket := ticket, tally := t, next := s, rest := rest }
        (none, o.setGate { g with waiting := g.waiting ++ [paused] })

/-- Goes on with messages that a gate let through. -/
def resume (o : Outbox) (p : Paused) : Option Outcome × Outbox :=
  let (failure, o) := o.send p.next
  o.deliver p.ticket (p.tally.count failure.isSome) p.rest

/-- Does what was prepared. -/
def carryOut (o : Outbox) (ticket : Ticket) (p : Preparation) : Option Outcome × Outbox :=
  let o : Outbox := { o with platform := o.platform.logLookups p.lookups }
  match p.result with
  | .skip outcome => (some outcome, o)
  | .deliver sendings => o.deliver ticket {} sendings

end Outbox

end EventAlerts
