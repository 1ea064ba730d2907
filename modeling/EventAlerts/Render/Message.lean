/-
  EventAlerts/Render/Message.lean
  ===============================
  **Rendering** — a message template, filled in for one destination.

  Every text goes through the same steps: embedded expressions, placeholders, emotes,
  the host's tokens, and sanitizing.  An optional text that comes out empty is left
  out.  Display names are escaped in texts that are read, and not in addresses or in
  the identity to send under.
-/
import EventAlerts.Messaging.Directory
import EventAlerts.Messaging.Message
import EventAlerts.Render.Interpolation
import EventAlerts.Render.Placeholder
import EventAlerts.Rule.Template

namespace EventAlerts.Render

open EventAlerts.Expr (Bindings)

/-- Everything that one message is rendered from. -/
structure Scope where
  bindings : Bindings
  actor : Option Actor := none
  bot : BotIdentity := {}
  directory : Directory := {}
  environment : Environment
  now : Time.Stamp := ⟨0⟩

/-- A message, and the identity to send it under if that is not the program's own. -/
structure Rendered where
  message : Message
  identity : Option SenderIdentity := none
  deriving Repr, DecidableEq

/-- The name to send under unless one is configured. -/
def defaultSenderName : String := "\x7bbotname\x7d"

/-- The picture to send under unless one is configured. -/
def defaultSenderAvatar : String := "\x7bembedavatarurl\x7d"

namespace Scope

/-- What placeholders see. -/
def placeholders (s : Scope) (escape : Bool) : PlaceholderScope :=
  { actor := s.actor, bot := s.bot, environment := s.environment, now := s.now, escape := escape }

/-- A text, filled in. -/
def text (s : Scope) (escape : Bool) (raw : String) : String :=
  sanitize (s.environment.expand s.actor (s.directory.translateEmotes
    (substitute (s.placeholders escape) (interpolate raw s.bindings))))

/-- An optional text, filled in; nothing if it comes out empty. -/
def text? (s : Scope) (escape : Bool) (raw : Option String) : Option String :=
  (raw.map (s.text escape)).filter fun t => !t.isEmpty

/-- A text that is read, filled in. -/
def shown? (s : Scope) (raw : Option String) : Option String := s.text? true raw

/-- An address, filled in. -/
def address? (s : Scope) (raw : Option String) : Option String := s.text? false raw

def embedField (s : Scope) (f : EmbedField) : EmbedField :=
  { name := s.text true f.name, value := s.text true f.value, inline := f.inline }

def embed (s : Scope) (t : EmbedTemplate) : Embed :=
  { color := t.color.bind EmbedColor.value?
    authorName := s.shown? (t.author.bind (·.name))
    authorUrl := s.address? (t.author.bind (·.url))
    authorIconUrl := s.address? (t.author.bind (·.iconUrl))
    title := s.shown? t.title
    titleUrl := s.address? t.titleUrl
    description := s.shown? t.description
    fields := t.fields.map s.embedField
    thumbnailUrl := s.address? t.thumbnailUrl
    imageUrl := s.address? t.imageUrl
    footerText := s.shown? (t.footer.bind (·.text))
    footerIconUrl := s.address? (t.footer.bind (·.iconUrl))
    timestamp := if t.timestamp then some s.now else none }

/-- The identity to send under.  A name that comes out empty is replaced by the
    program's own, as it is. -/
def sender (s : Scope) (w : WebhookTemplate) : SenderIdentity :=
  { name := (s.text? false (some (w.name.getD defaultSenderName))).getD s.bot.effectiveName
    avatarUrl := s.text? false (some (w.avatarUrl.getD defaultSenderAvatar)) }

/-- A message, filled in. -/
def render (s : Scope) (t : MessageTemplate) : Rendered :=
  { message := { content := s.shown? t.content, embed := t.embed.map s.embed }
    identity := t.identity.map s.sender }

end Scope

end EventAlerts.Render
