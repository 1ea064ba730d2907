/-
  EventAlerts/Messaging/Delivery.lean
  ===================================
  **Deliveries** — sending a message to a destination, and two platforms that take it.

  The console writes each delivery as a line of JSON, and knows the channels of its
  directory only.  The recorder takes every delivery, keeps a log of all calls, and can
  be told to reject what is sent to some destinations.
-/
import EventAlerts.Json.Printer
import EventAlerts.Messaging.Directory
import EventAlerts.Messaging.Message

namespace EventAlerts

/-- A message on its way. -/
structure Sending where
  destination : Destination
  /-- The identity it is sent under, if that is not the program's own. -/
  identity : Option SenderIdentity := none
  message : Message
  deriving Repr, DecidableEq, Inhabited

namespace Sending

def toJson (s : Sending) : Json :=
  .object ([("destination", s.destination.toJson)]
    ++ memberIf "identity" SenderIdentity.toJson s.identity
    ++ [("message", s.message.toJson)])

/-- The line that the console writes for it. -/
def line (s : Sending) : String := s.toJson.compact

end Sending

/-- Why a message was not delivered. -/
inductive DeliveryError
  | unavailable (id : String)
  | rejected (reason : String)
  | io (reason : String)
  deriving Repr, DecidableEq

def DeliveryError.message : DeliveryError → String
  | .unavailable id => "destination unavailable: " ++ id
  | .rejected reason => "delivery rejected: " ++ reason
  | .io reason => "io error: " ++ reason

/-! ### The console -/

/-- Deliveries as lines of text. -/
structure Console where
  directory : Directory
  /-- Why nothing can be written, if that is so. -/
  broken : Option String := none
  /-- The lines that were written. -/
  lines : List String := []
  deriving Repr, DecidableEq

namespace Console

/-- Writes a delivery, unless its destination is not in the directory. -/
def send (c : Console) (s : Sending) : Except DeliveryError Console :=
  match c.directory.channelById? s.destination.id, c.broken with
  | none, _ => .error (.unavailable s.destination.id)
  | some _, some reason => .error (.io reason)
  | some _, none => .ok { c with lines := c.lines ++ [s.line] }

/-- What was written: every line with a line feed behind it. -/
def text (c : Console) : String := String.join (c.lines.map (· ++ "\n"))

end Console

/-! ### The recorder -/

/-- A call that the recorder keeps. -/
inductive Call
  | lookup (l : Lookup)
  | sending (s : Sending)
  deriving Repr, DecidableEq

/-- A platform that keeps a log. -/
structure Recorder where
  directory : Directory := {}
  /-- The ids of destinations that nothing can be sent to. -/
  failing : List String := []
  calls : List Call := []
  deriving Repr, DecidableEq, Inhabited

namespace Recorder

/-- The deliveries among the calls, also those that failed. -/
def deliveries (r : Recorder) : List Sending :=
  r.calls.filterMap fun c =>
    match c with
    | .sending s => some s
    | .lookup _ => none

/-- Whether sending to a destination fails, and why. -/
def failure? (failing : List String) (s : Sending) : Option DeliveryError :=
  if s.destination.id ∈ failing then
    some (.rejected ("fake failure for " ++ s.destination.id))
  else none

/-- Takes a delivery into the log; the answer says why it failed, if it did. -/
def send (r : Recorder) (s : Sending) : Option DeliveryError × Recorder :=
  (failure? r.failing s, { r with calls := r.calls ++ [.sending s] })

/-- Takes lookups into the log. -/
def logLookups (r : Recorder) (lookups : List Lookup) : Recorder :=
  { r with calls := r.calls ++ lookups.map .lookup }

/-- Rejects all that is sent to a destination from now on. -/
def fail (r : Recorder) (id : String) : Recorder := { r with failing := r.failing ++ [id] }

def addChannel (r : Recorder) (c : Destination) : Recorder :=
  { r with directory := r.directory.addChannel c }

end Recorder

end EventAlerts
