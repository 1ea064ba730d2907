/-
  EventAlerts/Rule/Template.lean
  ==============================
  **Message templates** — the texts of a message before anything is filled in.

  A color is a number or a text of hexadecimal digits.  Both mean a color of 24 bits:
  of a number the low bits count, and a text of a larger number means none.
-/
import EventAlerts.Decimal.Reader
import EventAlerts.Json.Decode
import EventAlerts.Messaging.Message
import EventAlerts.Text.Basic

namespace EventAlerts

/-- The color of an embed as it is written. -/
inductive EmbedColor
  | rgb (value : Nat)
  | hex (digits : String)
  deriving Repr, DecidableEq, Inhabited

namespace EmbedColor

/-- The largest number of 32 bits. -/
def maxNumber : Nat := Nat.pow 2 32 - 1

/-- The largest color. -/
def maxColor : Nat := 0xFFFFFF

def ofJson? : Json → Option EmbedColor
  | .int n => (Json.nat? maxNumber (.int n)).map .rgb
  | .string s => some (.hex s)
  | _ => none

/-- The number that hexadecimal digits write, behind blanks and number signs. -/
def hexValue? (s : List Char) : Option Nat :=
  Decimal.readUnsigned? 16 ((Text.trimWhere Text.isBlank s).dropWhile (· = '#'))

/-- The color that is meant. -/
def value? : EmbedColor → Option Nat
  | .rgb n => some (n % (maxColor + 1))
  | .hex s => (hexValue? s.toList).filter (· ≤ maxColor)

end EmbedColor

/-- The author line of an embed. -/
structure AuthorTemplate where
  name : Option String := none
  url : Option String := none
  iconUrl : Option String := none
  deriving Repr, DecidableEq, Inhabited

/-- The footer of an embed. -/
structure FooterTemplate where
  text : Option String := none
  iconUrl : Option String := none
  deriving Repr, DecidableEq, Inhabited

/-- An embed before anything is filled in. -/
structure EmbedTemplate where
  color : Option EmbedColor := none
  author : Option AuthorTemplate := none
  title : Option String := none
  titleUrl : Option String := none
  description : Option String := none
  fields : List EmbedField := []
  thumbnailUrl : Option String := none
  imageUrl : Option String := none
  footer : Option FooterTemplate := none
  /-- Whether the embed shows the time. -/
  timestamp : Bool := false
  deriving Repr, DecidableEq, Inhabited

/-- The name and picture to send under. -/
structure WebhookTemplate where
  enabled : Bool := true
  name : Option String := none
  avatarUrl : Option String := none
  deriving Repr, DecidableEq, Inhabited

/-- A message before anything is filled in. -/
structure MessageTemplate where
  content : Option String := none
  embed : Option EmbedTemplate := none
  webhook : Option WebhookTemplate := none
  deriving Repr, DecidableEq, Inhabited

/-! ### Reading -/

def AuthorTemplate.ofJson? (j : Json) : Option AuthorTemplate := do
  let [name, url, iconUrl] ← j.fields? [["name"], ["url"], ["icon_url"]] | none
  return {
    name := ← Json.optional Json.text? name
    url := ← Json.optional Json.text? url
    iconUrl := ← Json.optional Json.text? iconUrl }

def FooterTemplate.ofJson? (j : Json) : Option FooterTemplate := do
  let [text, iconUrl] ← j.fields? [["text"], ["icon_url"]] | none
  return {
    text := ← Json.optional Json.text? text
    iconUrl := ← Json.optional Json.text? iconUrl }

def EmbedField.ofJson? (j : Json) : Option EmbedField := do
  let [name, value, inline] ← j.fields? [["name"], ["value"], ["inline"]] | none
  return {
    name := ← Json.required Json.text? name
    value := ← Json.required Json.text? value
    inline := ← Json.defaulting false Json.bool? inline }

def EmbedTemplate.ofJson? (j : Json) : Option EmbedTemplate := do
  let [color, author, title, titleUrl, description, fields, thumbnailUrl, imageUrl, footer,
      timestamp] ←
    j.fields? [["color"], ["author"], ["title"], ["title_url"], ["description"], ["fields"],
      ["thumbnail_url"], ["image_url"], ["footer"], ["timestamp"]] | none
  return {
    color := ← Json.optional EmbedColor.ofJson? color
    author := ← Json.optional AuthorTemplate.ofJson? author
    title := ← Json.optional Json.text? title
    titleUrl := ← Json.optional Json.text? titleUrl
    description := ← Json.optional Json.text? description
    fields := ← Json.defaulting [] (Json.list? EmbedField.ofJson?) fields
    thumbnailUrl := ← Json.optional Json.text? thumbnailUrl
    imageUrl := ← Json.optional Json.text? imageUrl
    footer := ← Json.optional FooterTemplate.ofJson? footer
    timestamp := ← Json.defaulting false Json.bool? timestamp }

def WebhookTemplate.ofJson? (j : Json) : Option WebhookTemplate := do
  let [enabled, name, avatarUrl] ←
    j.fields? [["enabled", "Enabled"], ["name", "Name"], ["avatar_url", "AvatarUrl"]] | none
  return {
    enabled := ← Json.defaulting true Json.bool? enabled
    name := ← Json.optional Json.text? name
    avatarUrl := ← Json.optional Json.text? avatarUrl }

namespace MessageTemplate

/-- The names of a template's fields. -/
def fieldNames : List (List String) :=
  [["content", "Content"], ["embed", "Embed"], ["webhook", "Webhook"]]

def ofFields? (fields : List (Option Json)) : Option MessageTemplate := do
  let [content, embed, webhook] := fields | none
  return {
    content := ← Json.optional Json.text? content
    embed := ← Json.optional EmbedTemplate.ofJson? embed
    webhook := ← Json.optional WebhookTemplate.ofJson? webhook }

def ofJson? (j : Json) : Option MessageTemplate := (j.fields? fieldNames).bind ofFields?

/-- A template with a text only. -/
def ofText (s : String) : MessageTemplate := { content := some s }

/-- The identity to send under, if there is one and it is enabled. -/
def identity (t : MessageTemplate) : Option WebhookTemplate := t.webhook.filter (·.enabled)

end MessageTemplate

end EventAlerts
