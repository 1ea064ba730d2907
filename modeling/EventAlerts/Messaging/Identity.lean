/-
  EventAlerts/Messaging/Identity.lean
  ===================================
  **Places and senders** — where messages go and in whose name.
-/
import EventAlerts.Json.Decode

namespace EventAlerts

/-- A channel that messages can be delivered to. -/
structure Destination where
  id : String
  name : String
  guild : Option String := none
  deriving Repr, DecidableEq, Inhabited

namespace Destination

def ofJson? (j : Json) : Option Destination := do
  let [id, name, guild] ← j.fields? [["id"], ["name"], ["guild"]] | none
  return {
    id := ← Json.required Json.text? id
    name := ← Json.required Json.text? name
    guild := ← Json.optional Json.text? guild }

def toJson (d : Destination) : Json :=
  .object [("id", .string d.id), ("name", .string d.name), ("guild", .ofText? d.guild)]

end Destination

/-- How the program itself appears on the messaging platform. -/
structure BotIdentity where
  name : String := ""
  avatarUrl : String := ""
  nickname : Option String := none
  deriving Repr, DecidableEq, Inhabited

namespace BotIdentity

/-- The name it goes by: the nickname, or else the name. -/
def effectiveName (b : BotIdentity) : String := b.nickname.getD b.name

def ofJson? (j : Json) : Option BotIdentity := do
  let [name, avatarUrl, nickname] ← j.fields? [["name"], ["avatar_url"], ["nickname"]] | none
  return {
    name := ← Json.required Json.text? name
    avatarUrl := ← Json.required Json.text? avatarUrl
    nickname := ← Json.optional Json.text? nickname }

def toJson (b : BotIdentity) : Json :=
  .object [("name", .string b.name), ("avatar_url", .string b.avatarUrl),
    ("nickname", .ofText? b.nickname)]

end BotIdentity

/-- The name and picture that one message is sent under. -/
structure SenderIdentity where
  name : String
  avatarUrl : Option String := none
  deriving Repr, DecidableEq, Inhabited

namespace SenderIdentity

/-- The identity as data; an absent picture is left out. -/
def toJson (s : SenderIdentity) : Json :=
  .object (("name", .string s.name) ::
    match s.avatarUrl with
    | some url => [("avatar_url", .string url)]
    | none => [])

end SenderIdentity

end EventAlerts
