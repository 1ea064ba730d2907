/-
  EventAlerts/Occurrence/Record.lean
  ==================================
  **Recorded occurrences** — an occurrence as data, to be played through a host.

  Two categories carry a command: `PlayerCommandPreprocessEvent` in the field
  `message` and `ServerCommandEvent` in the field `command`.
-/
import EventAlerts.Occurrence.Basic

namespace EventAlerts

/-- An occurrence as it was recorded. -/
structure Record where
  /-- The category's full name, with dots. -/
  category : String
  actor : Option Actor := none
  carriedActor : Option Actor := none
  cancelled : Option Bool := none
  message : Option String := none
  sender : Option String := none
  command : Option String := none
  /-- Sorted by key. -/
  fields : List (String × Json) := []

namespace Record

def playerCommandCategory : String := "PlayerCommandPreprocessEvent"

def serverCommandCategory : String := "ServerCommandEvent"

/-- Who runs a console command that names no sender. -/
def consoleSender : String := "CONSOLE"

def ofJson? (j : Json) : Option Record := do
  let [category, actor, carried, cancelled, message, sender, command, fields] ←
    j.fields? [["category"], ["actor"], ["carried_actor"], ["cancelled"], ["message"],
      ["sender"], ["command"], ["fields"]] | none
  return {
    category := ← Json.required Json.text? category
    actor := ← Json.optional Actor.ofJson? actor
    carriedActor := ← Json.optional Actor.ofJson? carried
    cancelled := ← Json.optional Json.bool? cancelled
    message := ← Json.optional Json.text? message
    sender := ← Json.optional Json.text? sender
    command := ← Json.optional Json.text? command
    fields := ← Json.defaulting [] Json.members? fields }

/-- The last part of the category's name. -/
def simpleName (r : Record) : String :=
  String.ofList (Command.afterLast '.' r.category.toList)

/-- The command that the record carries, if its category is one of the two. -/
def commandSource (r : Record) : Option CommandSource :=
  if r.simpleName = playerCommandCategory then r.message.map .player
  else if r.simpleName = serverCommandCategory then
    r.command.map (.server (r.sender.getD consoleSender))
  else none

/-- The occurrence that was recorded. -/
def toOccurrence (r : Record) : Occurrence :=
  { category := r.simpleName, actor := r.actor, carried := r.carriedActor
    cancelled := r.cancelled, command := r.commandSource, fields := some r.fields }

/-- Sets a field, in place of one of the same name. -/
def setField (r : Record) (key : String) (value : Json) : Record :=
  { r with fields := Json.insertMember key value r.fields }

end Record

end EventAlerts
