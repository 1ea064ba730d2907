/-
  EventAlerts/Messaging/Directory.lean
  ====================================
  **The channel directory** — the channels of the messaging platform, the names that
  the application gives to some of them, and the emotes.

  `resolve` finds the destinations that a rule names.  There are three ways to look up
  a name; each is tried on the whole list of names, and the first that finds anything
  decides alone.
-/
import EventAlerts.Messaging.Identity
import EventAlerts.Rule.Trigger

namespace EventAlerts

open EventAlerts.Rule (distinctBy)

/-- Channels, names and emotes of the platform. -/
structure Directory where
  identity : BotIdentity := {}
  channels : List Destination := []
  /-- Names of the application, with the ids of their channels. -/
  mapped : List (String × String) := []
  /-- Emotes without their colons, with their markup. -/
  emotes : List (String × String) := []
  deriving Repr, Inhabited, DecidableEq

namespace Directory

def fieldNames : List (List String) := [["identity"], ["channels"], ["mapped"], ["emotes"]]

def ofJson? (j : Json) : Option Directory := do
  let [identity, channels, mapped, emotes] ← j.fields? fieldNames | none
  return {
    identity := ← Json.defaulting {} BotIdentity.ofJson? identity
    channels := ← Json.defaulting [] (Json.list? Destination.ofJson?) channels
    mapped := ← Json.defaulting [] Json.textMap? mapped
    emotes := ← Json.defaulting [] Json.textMap? emotes }

/-! ### Looking up -/

/-- The first channel with the id. -/
def channelById? (d : Directory) (id : String) : Option Destination :=
  d.channels.find? fun c => c.id = id

/-- All channels with the name. -/
def channelsNamed (d : Directory) (name : String) : List Destination :=
  d.channels.filter fun c => c.name = name

/-- The channel that the application gives the name to. -/
def mappedChannel? (d : Directory) (name : String) : Option Destination :=
  (d.mapped.lookup name).bind d.channelById?

/-- An emote between colons. -/
def emote (name : String) : String := ":" ++ name ++ ":"

/-- Replaces emotes by their markup, one after the other. -/
def translateEmotes (d : Directory) (s : String) : String :=
  d.emotes.foldl (fun text e => Text.replace text (emote e.1) e.2) s

/-- Adds a channel behind the others. -/
def addChannel (d : Directory) (c : Destination) : Directory :=
  { d with channels := d.channels ++ [c] }

end Directory

/-- A way to look up a destination's name. -/
inductive Strategy
  /-- As a name of the application. -/
  | mapped
  /-- As a channel's own name. -/
  | name
  /-- As a channel's id, for names of digits only. -/
  | id
  deriving Repr, DecidableEq

/-- A lookup that was made. -/
structure Lookup where
  strategy : Strategy
  name : String
  deriving Repr, DecidableEq

namespace Strategy

/-- The strategies in the order they are tried. -/
def all : List Strategy := [.mapped, .name, .id]

/-- Whether a text is made of one or more of the ten digits. -/
def isDigits (s : String) : Bool := !s.isEmpty && s.toList.all Char.isDigit

/-- Looks up a name: what it stands for, and the lookup, unless there is none to make. -/
def look (d : Directory) : Strategy → String → Option Destination × List Lookup
  | .mapped, text => (d.mappedChannel? text, [{ strategy := .mapped, name := text }])
  | .name, text => ((d.channelsNamed text).head?, [{ strategy := .name, name := text }])
  | .id, text =>
    if isDigits text then (d.channelById? text, [{ strategy := .id, name := text }])
    else (none, [])

/-- Looks up names one after the other. -/
def search (d : Directory) (s : Strategy) : List String → List Destination × List Lookup
  | [] => ([], [])
  | text :: rest =>
    let (found, lookups) := s.look d text
    let (others, later) := search d s rest
    (found.toList ++ others, lookups ++ later)

end Strategy

/-- The result of looking up destinations. -/
structure Resolution where
  /-- The strategy that found them, if one did. -/
  strategy : Option Strategy := none
  found : List Destination := []
  /-- Every lookup that was made, in order. -/
  lookups : List Lookup := []
  deriving Repr, DecidableEq

namespace Directory

/-- Tries strategies one after the other until one finds something.  Of what stands for the
    same channel, the first is kept. -/
def resolveWith (d : Directory) (names : List String) : List Strategy → Resolution
  | [] => {}
  | s :: rest =>
    let (answers, lookups) := s.search d names
    let found := distinctBy Destination.id answers
    if found.isEmpty then
      let later := resolveWith d names rest
      { later with lookups := lookups ++ later.lookups }
    else { strategy := some s, found := found, lookups := lookups }

/-- The destinations that names stand for. -/
def resolve (d : Directory) (names : List String) : Resolution :=
  d.resolveWith names Strategy.all

end Directory

end EventAlerts
