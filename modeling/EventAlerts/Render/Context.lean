/-
  EventAlerts/Render/Context.lean
  ===============================
  **Bindings** — the variables that conditions and embedded expressions see for one
  rule, occurrence and destination.

  The fields of the occurrence are bound under their own names unless a name is
  reserved: `event`, `category`, `args`, `allArgs`, `server` and `bot` always have the
  meaning given here, and `player`, `sender`, `command` and `channel` have it when
  there is such a thing.  What is absent has no binding of its own.
-/
import EventAlerts.Expr.Eval
import EventAlerts.Messaging.Identity
import EventAlerts.Occurrence.Actor

namespace EventAlerts

open EventAlerts.Expr (Value Bindings)

/-- Everything that bindings are made from. -/
structure RenderContext where
  category : String := ""
  event : Json := .null
  actor : Option Actor := none
  sender : Option String := none
  command : Option String := none
  args : List String := []
  destination : Option Destination := none
  server : Json := .null
  bot : BotIdentity := {}

namespace RenderContext

/-- The arguments with spaces between them. -/
def allArgs (c : RenderContext) : String := " ".intercalate c.args

/-- The bindings for a destination. -/
def forDestination (c : RenderContext) (d : Destination) : RenderContext :=
  { c with destination := some d }

/-- The names of the occurrence's own fields, with their values. -/
def eventFields (c : RenderContext) : List (String × Json) :=
  match c.event with
  | .object members => members
  | _ => []

/-- A binding for something that may be absent. -/
def bindingOf (name : String) (f : α → Json) : Option α → List (String × Json)
  | some a => [(name, f a)]
  | none => []

/-- The reserved names that have a meaning here. -/
def reserved (c : RenderContext) : List (String × Json) :=
  [("event", c.event), ("category", .string c.category)]
    ++ bindingOf "player" Actor.toJson c.actor
    ++ bindingOf "sender" Json.string c.sender
    ++ bindingOf "command" Json.string c.command
    ++ [("args", .ofTexts c.args), ("allArgs", .string c.allArgs)]
    ++ bindingOf "channel" Destination.toJson c.destination
    ++ [("server", c.server), ("bot", c.bot.toJson)]

/-- All bindings as data, sorted by name; a reserved name hides a field. -/
def vars (c : RenderContext) : List (String × Json) :=
  c.reserved.foldl (fun sorted m => Json.insertMember m.1 m.2 sorted)
    (Json.sortMembers c.eventFields)

/-- All bindings as values. -/
def bindings (c : RenderContext) : Bindings :=
  c.vars.map fun m => (m.1, Value.ofJson (.variable m.1) m.2)

end RenderContext

end EventAlerts
