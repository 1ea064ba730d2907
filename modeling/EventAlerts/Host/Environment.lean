/-
  EventAlerts/Host/Environment.lean
  =================================
  **The host as messages see it** — its tick rate, a view of the server, pictures of
  actors, and the host's own `%token%` expansion.

  `Environment` is what rendering needs of any host.  `FixedEnvironment` is one that
  is written down: pictures come from a template with `{name}` in it, and tokens from
  a table, whose entries are expanded one after the other.
-/
import EventAlerts.Occurrence.Actor
import EventAlerts.Text.Basic

namespace EventAlerts

/-- What rendering reads from a host. -/
structure Environment where
  /-- Ticks per second. -/
  tickRate : Float
  /-- The view of the server that expressions have. -/
  server : Json := .null
  avatarUrl : Actor → Option String := Actor.avatarUrl
  /-- Expands the host's tokens in a text. -/
  expand : Option Actor → String → String := fun _ s => s

/-- A host that is written down. -/
structure FixedEnvironment where
  tickRate : Float := 20
  server : Json := .null
  /-- A picture's address, with `{name}` for the actor's name. -/
  avatarTemplate : Option String := none
  /-- Tokens without their percent signs, with their values. -/
  placeholders : List (String × String) := []
  deriving Inhabited

namespace FixedEnvironment

/-- The names and fields of an environment as data. -/
def ofFields? (fields : List (Option Json)) : Option FixedEnvironment := do
  let [tickRate, server, avatarTemplate, placeholders] := fields | none
  return {
    tickRate := ← Json.defaulting 20 (Json.number? Decimal.floatOfInt) tickRate
    server := ← Json.defaulting .null Json.any? server
    avatarTemplate := ← Json.optional Json.text? avatarTemplate
    placeholders := ← Json.defaulting [] Json.textMap? placeholders }

def fieldNames : List (List String) :=
  [["tick_rate"], ["server"], ["avatar_template"], ["placeholders"]]

def ofJson? (j : Json) : Option FixedEnvironment := (j.fields? fieldNames).bind ofFields?

/-- A token between percent signs. -/
def token (key : String) : String := "%" ++ key ++ "%"

/-- Replaces tokens, one after the other. -/
def expandTokens (tokens : List (String × String)) (s : String) : String :=
  tokens.foldl (fun text t => Text.replace text (token t.1) t.2) s

/-- The tokens that an actor gives: the name, and the world if it is known. -/
def actorTokens : Option Actor → List (String × String)
  | none => []
  | some a =>
    ("player_name", a.name) ::
      match a.world with
      | some world => [("player_world", world)]
      | none => []

/-- The actor's own picture, or the one that the template gives. -/
def avatarUrl (e : FixedEnvironment) (a : Actor) : Option String :=
  a.avatarUrl <|> e.avatarTemplate.map fun t => Text.replace t "\x7bname\x7d" a.name

/-- Expands the actor's tokens and then those of the table.  A text without a percent
    sign is left alone. -/
def expand (e : FixedEnvironment) (actor : Option Actor) (s : String) : String :=
  if s.toList.contains '%' then expandTokens (actorTokens actor ++ e.placeholders) s else s

/-- The host as rendering sees it. -/
def toEnvironment (e : FixedEnvironment) : Environment :=
  { tickRate := e.tickRate, server := e.server, avatarUrl := e.avatarUrl, expand := e.expand }

end FixedEnvironment

end EventAlerts
