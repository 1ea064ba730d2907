/-
  EventAlerts/Render/Placeholder.lean
  ===================================
  **Placeholders** — names in braces that stand for a value, such as `{name}`.

  `pieces` cuts a template into plain characters and names in braces, whatever the
  values are; `substitute` puts the value of each name in its place.  A name without a
  value stays as it is written, and values are not looked at again.
-/
import EventAlerts.Decimal.Format
import EventAlerts.Host.Environment
import EventAlerts.Messaging.Identity
import EventAlerts.Render.Sanitize
import EventAlerts.Time.Stamp

namespace EventAlerts.Render

/-! ### Values -/

/-- What the values are made from. -/
structure PlaceholderScope where
  actor : Option Actor := none
  bot : BotIdentity := {}
  environment : Environment
  now : Time.Stamp := ⟨0⟩
  /-- Whether marks in the actor's display name are escaped. -/
  escape : Bool := true

/-- The names that have a value. -/
inductive Placeholder
  | tickRate | timestamp | ping | actorName | displayName | world
  | actorAvatar | botAvatar | botName
  deriving Repr, DecidableEq

namespace Placeholder

/-- Every name in braces with what it stands for. -/
def table : List (String × Placeholder) :=
  [("tps", .tickRate), ("time", .timestamp), ("date", .timestamp), ("ping", .ping),
   ("name", .actorName), ("username", .actorName), ("displayname", .displayName),
   ("world", .world), ("embedavatarurl", .actorAvatar), ("botavatarurl", .botAvatar),
   ("botname", .botName)]

/-- A tick rate with two places at most: zeros at the end are dropped, and then the
    point if nothing is behind it. -/
def tickRateText (rate : Float) : String :=
  String.ofList (Text.dropEndWhile (· = '.')
    (Text.dropEndWhile (· = '0') (Decimal.fixedText 2 rate).toList))

/-- The value in a scope.  Without an actor the texts about the actor are empty. -/
def value (scope : PlaceholderScope) : Placeholder → String
  | .tickRate => tickRateText scope.environment.tickRate
  | .timestamp => scope.now.shown
  | .ping =>
    match scope.actor.bind Actor.ping with
    | some n => toString n
    | none => "-1"
  | .actorName => (scope.actor.map Actor.name).getD ""
  | .displayName =>
    match scope.actor with
    | some a => stripColorCodes (if scope.escape then escapeMarkdown a.shownName else a.shownName)
    | none => ""
  | .world => (scope.actor.bind Actor.world).getD ""
  | .actorAvatar => (scope.actor.bind scope.environment.avatarUrl).getD scope.bot.avatarUrl
  | .botAvatar => scope.bot.avatarUrl
  | .botName => scope.bot.effectiveName

end Placeholder

/-- The value of a name in braces, if it has one. -/
def placeholderValue? (scope : PlaceholderScope) (name : String) : Option String :=
  (Placeholder.table.lookup name).map (Placeholder.value scope)

/-! ### Templates -/

/-- The characters that names are made of. -/
def isNameChar (c : Char) : Bool := c.isAlphanum || c = '_'

/-- A part of a template. -/
inductive Piece
  | plain (c : Char)
  | named (name : List Char)
  deriving Repr, DecidableEq

/-- The characters that a piece is written with. -/
def Piece.source : Piece → List Char
  | .plain c => [c]
  | .named name => '\x7b' :: name ++ ['\x7d']

/-- The name up to a closing brace, and what follows the brace. -/
def takeName? (s : List Char) : Option (List Char × List Char) :=
  match s.dropWhile isNameChar with
  | '\x7d' :: rest =>
    if (s.takeWhile isNameChar).isEmpty then none else some (s.takeWhile isNameChar, rest)
  | _ => none

theorem takeName?_length {s name rest : List Char} (h : takeName? s = some (name, rest)) :
    rest.length < s.length := by
  simp only [takeName?] at h
  split at h
  next after hd =>
    split at h
    · simp at h
    · simp only [Option.some.injEq, Prod.mk.injEq] at h
      have hlen := congrArg List.length (@List.takeWhile_append_dropWhile _ isNameChar s)
      rw [hd] at hlen
      simp only [List.length_append, List.length_cons] at hlen
      rw [← h.2]
      omega
  next => simp at h

/-- Cuts a template into its pieces. -/
def pieces : List Char → List Piece
  | [] => []
  | c :: rest =>
    if c = '\x7b' then
      match _h : takeName? rest with
      | some (name, after) => .named name :: pieces after
      | none => .plain c :: pieces rest
    else .plain c :: pieces rest
termination_by s => s.length
decreasing_by
  · have := takeName?_length _h
    simp only [List.length_cons]
    omega
  · simp
  · simp

/-- The text that a piece gives. -/
def Piece.render (scope : PlaceholderScope) : Piece → List Char
  | .plain c => [c]
  | .named name =>
    match placeholderValue? scope (String.ofList name) with
    | some value => value.toList
    | none => (Piece.named name).source

/-- What the pieces of a template give, one after the other. -/
def renderPieces (scope : PlaceholderScope) (s : List Char) : List Char :=
  (pieces s).flatMap (Piece.render scope)

/-- The template with the values in place of the names.  A template without an opening
    brace is left alone. -/
def substitute (scope : PlaceholderScope) (template : String) : String :=
  if template.toList.contains '\x7b' then String.ofList (renderPieces scope template.toList)
  else template

end EventAlerts.Render
