/-
  EventAlerts/Messaging/Message.lean
  ==================================
  **Messages** — what is delivered: a text, and an embed with texts, addresses and
  fields.  As data, absent parts are left out.
-/
import EventAlerts.Messaging.Identity
import EventAlerts.Time.Stamp

namespace EventAlerts

/-- A field of an embed. -/
structure EmbedField where
  name : String
  value : String
  inline : Bool := false
  deriving Repr, DecidableEq, Inhabited

/-- The boxed part of a message. -/
structure Embed where
  /-- Red, green and blue, of eight bits each. -/
  color : Option Nat := none
  authorName : Option String := none
  authorUrl : Option String := none
  authorIconUrl : Option String := none
  title : Option String := none
  titleUrl : Option String := none
  description : Option String := none
  fields : List EmbedField := []
  thumbnailUrl : Option String := none
  imageUrl : Option String := none
  footerText : Option String := none
  footerIconUrl : Option String := none
  timestamp : Option Time.Stamp := none
  deriving Repr, DecidableEq, Inhabited

/-- A message ready for delivery. -/
structure Message where
  content : Option String := none
  embed : Option Embed := none
  deriving Repr, DecidableEq, Inhabited

/-- A member that is left out if there is nothing to write. -/
def memberIf (name : String) (write : α → Json) : Option α → List (String × Json)
  | some a => [(name, write a)]
  | none => []

namespace EmbedField

def toJson (f : EmbedField) : Json :=
  .object [("name", .string f.name), ("value", .string f.value), ("inline", .bool f.inline)]

end EmbedField

namespace Embed

/-- The fields as a member, if there are any. -/
def fieldsMember : List EmbedField → List (String × Json)
  | [] => []
  | fields => [("fields", .array (fields.map EmbedField.toJson))]

def toJson (e : Embed) : Json :=
  .object
    (memberIf "color" (fun n => Json.int (n : Nat)) e.color
      ++ memberIf "author_name" Json.string e.authorName
      ++ memberIf "author_url" Json.string e.authorUrl
      ++ memberIf "author_icon_url" Json.string e.authorIconUrl
      ++ memberIf "title" Json.string e.title
      ++ memberIf "title_url" Json.string e.titleUrl
      ++ memberIf "description" Json.string e.description
      ++ fieldsMember e.fields
      ++ memberIf "thumbnail_url" Json.string e.thumbnailUrl
      ++ memberIf "image_url" Json.string e.imageUrl
      ++ memberIf "footer_text" Json.string e.footerText
      ++ memberIf "footer_icon_url" Json.string e.footerIconUrl
      ++ memberIf "timestamp" (fun t => Json.string t.rfc3339) e.timestamp)

end Embed

namespace Message

/-- A message with a text only. -/
def ofText (s : String) : Message := { content := some s }

/-- Whether there is nothing to deliver: no text, or an empty one, and no embed. -/
def isEmpty (m : Message) : Bool := (m.content.getD "").isEmpty && m.embed.isNone

def toJson (m : Message) : Json :=
  .object (memberIf "content" Json.string m.content ++ memberIf "embed" Embed.toJson m.embed)

end Message

end EventAlerts
