/-
  EventAlerts/Occurrence/Actor.lean
  =================================
  **Actors** — who an occurrence is about.
-/
import EventAlerts.Decimal.Convert
import EventAlerts.Expr.Value
import EventAlerts.Json.Decode

namespace EventAlerts

/-- Someone on the host who does something. -/
structure Actor where
  name : String
  displayName : Option String := none
  world : Option String := none
  avatarUrl : Option String := none
  ping : Option Nat := none
  deriving Repr, DecidableEq, Inhabited

namespace Actor

/-- The name that is shown: the display name, or else the name. -/
def shownName (a : Actor) : String := a.displayName.getD a.name

/-- The largest ping that an actor can have. -/
def maxPing : Nat := Nat.pow 2 32 - 1

def ofJson? (j : Json) : Option Actor := do
  let [name, displayName, world, avatarUrl, ping] ←
    j.fields? [["name"], ["display_name"], ["world"], ["avatar_url"], ["ping"]] | none
  return {
    name := ← Json.required Json.text? name
    displayName := ← Json.optional Json.text? displayName
    world := ← Json.optional Json.text? world
    avatarUrl := ← Json.optional Json.text? avatarUrl
    ping := ← Json.optional (Json.nat? maxPing) ping }

/-- An optional number as data. -/
def pingJson : Option Nat → Json
  | some n => .int n
  | none => .null

def toJson (a : Actor) : Json :=
  .object [("name", .string a.name), ("display_name", .ofText? a.displayName),
    ("world", .ofText? a.world), ("avatar_url", .ofText? a.avatarUrl), ("ping", pingJson a.ping)]

end Actor

end EventAlerts
