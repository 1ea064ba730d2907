/-
  EventAlerts/Occurrence/Basic.lean
  =================================
  **Occurrences** — what the host reports: something of a category happened.

  `Occurrence.snapshot` is the view that expressions have of it, and
  `OccurrenceContext` is what every rule reads from it.  An occurrence that can be
  cancelled knows whether it is, and this can change while rules are at work.
-/
import EventAlerts.Occurrence.Command
import EventAlerts.Render.Context

namespace EventAlerts

/-- Something that happened on the host. -/
structure Occurrence where
  /-- The category's simple name. -/
  category : String
  /-- The actor that the category declares. -/
  actor : Option Actor := none
  /-- An actor that is carried without being declared. -/
  carried : Option Actor := none
  /-- Whether it is cancelled, if it can be. -/
  cancelled : Option Bool := none
  command : Option CommandSource := none
  /-- Its data, if it has any. -/
  fields : Option (List (String × Json)) := none

namespace Occurrence

/-- Puts in a member unless there is one with the key. -/
def addMember (key : String) (value : Json) (members : List (String × Json)) :
    List (String × Json) :=
  if (Json.member? key members).isSome then members else Json.insertMember key value members

/-- The fields as expressions see them: with the name of the category, unless a field
    has that name, and with the current state of cancellation. -/
def snapshot (o : Occurrence) : Json :=
  match o.fields with
  | none => .null
  | some fields =>
    let named := addMember "eventName" (.string o.category) fields
    match o.cancelled with
    | some b => .object (Json.insertMember "cancelled" (.bool b) named)
    | none => .object named

/-- Whether it can be cancelled. -/
def isCancellable (o : Occurrence) : Bool := o.cancelled.isSome

/-- The occurrence after it was cancelled or cleared, if it can be. -/
def setCancelled (o : Occurrence) (value : Bool) : Occurrence :=
  { o with cancelled := o.cancelled.map fun _ => value }

end Occurrence

/-- What every rule reads from an occurrence. -/
structure OccurrenceContext where
  category : String
  actor : Option Actor := none
  sender : Option String := none
  /-- The command in its normal form. -/
  command : Option String := none
  args : List String := []
  deriving Repr, DecidableEq

namespace OccurrenceContext

/-- A text without one slash in front. -/
def withoutSlash (s : String) : String :=
  match s.toList with
  | '/' :: rest => String.ofList rest
  | _ => s

/-- Reads an occurrence.  A declared actor goes before a carried one; a player's
    command is sent by the actor. -/
def ofOccurrence (o : Occurrence) : OccurrenceContext :=
  let actor := o.actor <|> o.carried
  match o.command with
  | none => { category := o.category, actor := actor }
  | some (.player message) =>
    let command := Command.ofText (withoutSlash message)
    { category := o.category, actor := actor, sender := actor.map Actor.name
      command := some command.text, args := command.args }
  | some (.server sender text) =>
    let command := Command.ofText text
    { category := o.category, actor := actor, sender := some sender
      command := some command.text, args := command.args }

/-- Everything that bindings are made from, but the destination. -/
def renderContext (c : OccurrenceContext) (event server : Json) (bot : BotIdentity) :
    RenderContext :=
  { category := c.category, event := event, actor := c.actor, sender := c.sender
    command := c.command, args := c.args, server := server, bot := bot }

end OccurrenceContext

end EventAlerts
