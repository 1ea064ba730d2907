/-
  EventAlerts/Proofs/Messaging/Reading.lean
  =========================================
  **Deliveries read back from data** — what a delivery is written as tells the delivery.

  There is a reader for every kind of object in a delivery, and it takes exactly the parts
  that were written.  The places of channels have a reader already; the others are strict: a
  part that was left out must be missing, and nothing else may be there.  A color
  is a number of 32 bits (`Message.IsColored`); without that bound the document could not hold it.
-/
import EventAlerts.Messaging.Delivery
import EventAlerts.Proofs.Json.Members
import EventAlerts.Proofs.Time.Reading
import EventAlerts.Rule.Template

namespace EventAlerts

open Json (bind_of_eq_some given among? field? fieldIf? among?_given field?_given fieldIf?_given
  isExact_object_given isExact_of_mem_map)

theorem memberIf_eq (name : String) (write : α → Json) (value : Option α) :
    memberIf name write value = ((value.map write).map (name, ·)).toList := by
  cases value <;> rfl

/-! ### Readers -/

namespace Time.Stamp

def toJson (t : Stamp) : Json := .string t.rfc3339

def ofJson? (j : Json) : Option Stamp := j.text?.bind ofRfc3339?

end Time.Stamp

namespace EmbedField

def read? (j : Json) : Option EmbedField := do
  let members ← among? ["name", "value", "inline"] j
  return {
    name := ← field? "name" Json.text? members
    value := ← field? "value" Json.text? members
    inline := ← field? "inline" Json.bool? members }

end EmbedField

namespace Embed

/-- The fields of an embed that has some. -/
def readFields? (j : Json) : Option (List EmbedField) :=
  (j.list? EmbedField.read?).filter (· ≠ [])

def partNames : List String :=
  ["color", "author_name", "author_url", "author_icon_url", "title", "title_url", "description",
    "fields", "thumbnail_url", "image_url", "footer_text", "footer_icon_url", "timestamp"]

def read? (j : Json) : Option Embed := do
  let members ← among? partNames j
  return {
    color := ← fieldIf? "color" (Json.nat? EmbedColor.maxNumber) members
    authorName := ← fieldIf? "author_name" Json.text? members
    authorUrl := ← fieldIf? "author_url" Json.text? members
    authorIconUrl := ← fieldIf? "author_icon_url" Json.text? members
    title := ← fieldIf? "title" Json.text? members
    titleUrl := ← fieldIf? "title_url" Json.text? members
    description := ← fieldIf? "description" Json.text? members
    fields := (← fieldIf? "fields" readFields? members).getD []
    thumbnailUrl := ← fieldIf? "thumbnail_url" Json.text? members
    imageUrl := ← fieldIf? "image_url" Json.text? members
    footerText := ← fieldIf? "footer_text" Json.text? members
    footerIconUrl := ← fieldIf? "footer_icon_url" Json.text? members
    timestamp := ← fieldIf? "timestamp" Time.Stamp.ofJson? members }

end Embed

namespace Message

def read? (j : Json) : Option Message := do
  let members ← among? ["content", "embed"] j
  return {
    content := ← fieldIf? "content" Json.text? members
    embed := ← fieldIf? "embed" Embed.read? members }

/-- Whether the color of the embed is a number of 32 bits, if there is one. -/
def IsColored (m : Message) : Prop :=
  ∀ embed ∈ m.embed, ∀ color ∈ embed.color, color ≤ EmbedColor.maxNumber

instance (m : Message) : Decidable m.IsColored :=
  inferInstanceAs (Decidable (∀ embed ∈ m.embed, ∀ color ∈ embed.color, _))

end Message

namespace SenderIdentity

def read? (j : Json) : Option SenderIdentity := do
  let members ← among? ["name", "avatar_url"] j
  return {
    name := ← field? "name" Json.text? members
    avatarUrl := ← fieldIf? "avatar_url" Json.text? members }

end SenderIdentity

namespace Sending

def read? (j : Json) : Option Sending := do
  let members ← among? ["destination", "identity", "message"] j
  return {
    destination := ← field? "destination" Destination.ofJson? members
    identity := ← fieldIf? "identity" SenderIdentity.read? members
    message := ← field? "message" Message.read? members }

end Sending

/-! ### Reading back -/

namespace Time.Stamp

theorem ofJson?_toJson (t : Stamp) : ofJson? t.toJson = some t := ofRfc3339?_rfc3339 t

end Time.Stamp

namespace Destination

theorem ofJson?_toJson (d : Destination) : ofJson? d.toJson = some d := by
  obtain ⟨id, name, guild⟩ := d
  cases guild <;> rfl

theorem isExact_toJson (d : Destination) : d.toJson.isExact = true := by
  obtain ⟨id, name, guild⟩ := d
  cases guild <;> rfl

end Destination

namespace SenderIdentity

def parts (s : SenderIdentity) : List (String × Option Json) :=
  [("name", some (.string s.name)), ("avatar_url", s.avatarUrl.map .string)]

theorem toJson_eq (s : SenderIdentity) : s.toJson = .object (given s.parts) := by
  obtain ⟨name, avatarUrl⟩ := s
  cases avatarUrl <;> rfl

theorem read?_toJson (s : SenderIdentity) : read? s.toJson = some s := by
  have apart : (s.parts.map Prod.fst).Nodup := by simp [parts]
  have members : among? ["name", "avatar_url"] (.object (given s.parts)) = some (given s.parts) :=
    among?_given rfl
  have name : field? "name" Json.text? (given s.parts) = some s.name :=
    field?_given (.string s.name) apart (by simp [parts]) rfl
  have avatarUrl : fieldIf? "avatar_url" Json.text? (given s.parts) = some s.avatarUrl :=
    fieldIf?_given .string apart (by simp [parts]) fun _ _ => rfl
  simp only [read?, toJson_eq, members, Option.bind_eq_bind, Option.bind_some, name, avatarUrl]
  rfl

theorem isExact_toJson (s : SenderIdentity) : s.toJson.isExact = true := by
  obtain ⟨name, avatarUrl⟩ := s
  cases avatarUrl <;> rfl

end SenderIdentity

namespace EmbedField

theorem read?_toJson (f : EmbedField) : read? f.toJson = some f := rfl

theorem isExact_toJson (f : EmbedField) : f.toJson.isExact = true := rfl

end EmbedField

namespace Embed

/-- The fields as an array, if there are any. -/
def fieldsPart : List EmbedField → Option Json
  | [] => none
  | fields => some (.array (fields.map EmbedField.toJson))

def parts (e : Embed) : List (String × Option Json) :=
  [("color", e.color.map fun n => .int (n : Nat)), ("author_name", e.authorName.map .string),
    ("author_url", e.authorUrl.map .string), ("author_icon_url", e.authorIconUrl.map .string),
    ("title", e.title.map .string), ("title_url", e.titleUrl.map .string),
    ("description", e.description.map .string), ("fields", fieldsPart e.fields),
    ("thumbnail_url", e.thumbnailUrl.map .string), ("image_url", e.imageUrl.map .string),
    ("footer_text", e.footerText.map .string),
    ("footer_icon_url", e.footerIconUrl.map .string),
    ("timestamp", e.timestamp.map Time.Stamp.toJson)]

theorem fieldsMember_eq (fields : List EmbedField) :
    fieldsMember fields = ((fieldsPart fields).map ("fields", ·)).toList := by
  cases fields <;> rfl

theorem toJson_eq (e : Embed) : e.toJson = .object (given e.parts) := by
  have none : given [] = [] := rfl
  simp only [toJson, memberIf_eq, fieldsMember_eq, parts, Json.given_cons, none,
    List.append_assoc, List.append_nil]
  rfl

variable {e : Embed}

theorem nodup_parts (e : Embed) : (e.parts.map Prod.fst).Nodup := by simp [parts]

theorem fieldIf?_text (e : Embed) (name : String) (text : Option String)
    (listed : (name, text.map .string) ∈ e.parts) :
    fieldIf? name Json.text? (given e.parts) = some text :=
  fieldIf?_given .string (nodup_parts e) listed fun _ _ => rfl

theorem fieldIf?_color (bound : ∀ color ∈ e.color, color ≤ EmbedColor.maxNumber) :
    fieldIf? "color" (Json.nat? EmbedColor.maxNumber) (given e.parts) = some e.color := by
  refine fieldIf?_given (fun n => .int (n : Nat)) (nodup_parts e) (by simp [parts]) ?_
  intro color there
  have small : (color : Int) ≤ EmbedColor.maxNumber := Int.ofNat_le.mpr (bound color there)
  simp [Json.nat?, small]

theorem readFields?_array (first : EmbedField) (others : List EmbedField) :
    readFields? (.array ((first :: others).map EmbedField.toJson)) = some (first :: others) := by
  have all : ∀ fields : List EmbedField,
      (fields.map EmbedField.toJson).mapM EmbedField.read? = some fields := by
    intro fields
    induction fields with
    | nil => rfl
    | cons field fields ih =>
      rw [List.map_cons, List.mapM_cons, ih, EmbedField.read?_toJson]
      rfl
  rw [readFields?, Json.list?, all]
  rfl

/-- No fields are written as no part. -/
theorem fieldIf?_fields (e : Embed) :
    (fieldIf? "fields" readFields? (given e.parts)).map (·.getD []) = some e.fields := by
  have part : Json.fieldOf? ["fields"] (given e.parts) = some (fieldsPart e.fields) :=
    Json.fieldOf?_given (nodup_parts e) (by simp [parts])
  rw [fieldIf?, part]
  cases e.fields with
  | nil => rfl
  | cons first others => simp only [fieldsPart, readFields?_array]; rfl

theorem fieldIf?_timestamp (e : Embed) :
    fieldIf? "timestamp" Time.Stamp.ofJson? (given e.parts) = some e.timestamp :=
  fieldIf?_given Time.Stamp.toJson (nodup_parts e) (by simp [parts]) fun t _ => t.ofJson?_toJson

theorem read?_toJson (bound : ∀ color ∈ e.color, color ≤ EmbedColor.maxNumber) :
    read? e.toJson = some e := by
  have members : among? partNames (.object (given e.parts)) = some (given e.parts) :=
    among?_given rfl
  obtain ⟨fields, there, same⟩ := Option.map_eq_some_iff.mp (fieldIf?_fields e)
  rw [toJson_eq, read?, bind_of_eq_some members, bind_of_eq_some (fieldIf?_color bound),
    bind_of_eq_some (fieldIf?_text e "author_name" e.authorName (by simp [parts])),
    bind_of_eq_some (fieldIf?_text e "author_url" e.authorUrl (by simp [parts])),
    bind_of_eq_some (fieldIf?_text e "author_icon_url" e.authorIconUrl (by simp [parts])),
    bind_of_eq_some (fieldIf?_text e "title" e.title (by simp [parts])),
    bind_of_eq_some (fieldIf?_text e "title_url" e.titleUrl (by simp [parts])),
    bind_of_eq_some (fieldIf?_text e "description" e.description (by simp [parts])),
    bind_of_eq_some there,
    bind_of_eq_some (fieldIf?_text e "thumbnail_url" e.thumbnailUrl (by simp [parts])),
    bind_of_eq_some (fieldIf?_text e "image_url" e.imageUrl (by simp [parts])),
    bind_of_eq_some (fieldIf?_text e "footer_text" e.footerText (by simp [parts])),
    bind_of_eq_some (fieldIf?_text e "footer_icon_url" e.footerIconUrl (by simp [parts])),
    bind_of_eq_some (fieldIf?_timestamp e), same]
  rfl

theorem isExact_fieldsPart (fields : List EmbedField) :
    ∀ j ∈ fieldsPart fields, j.isExact = true := by
  intro j there
  cases fields with
  | nil => cases there
  | cons first others =>
    obtain rfl := Option.some.inj there
    rw [Json.isExact, Json.isExactItems_iff]
    intro item listed
    obtain ⟨field, -, rfl⟩ := List.mem_map.mp listed
    exact field.isExact_toJson

theorem isExact_toJson (bound : ∀ color ∈ e.color, color ≤ EmbedColor.maxNumber) :
    e.toJson.isExact = true := by
  have text : ∀ text : Option String, ∀ j ∈ text.map Json.string, j.isExact = true :=
    fun _ => isExact_of_mem_map fun _ _ => rfl
  have time : ∀ j ∈ e.timestamp.map Time.Stamp.toJson, j.isExact = true :=
    isExact_of_mem_map fun _ _ => rfl
  have color : ∀ j ∈ e.color.map fun n => Json.int (n : Nat), j.isExact = true := by
    refine isExact_of_mem_map fun n given => ?_
    have high : (n : Int) ≤ Json.maxUnsigned :=
      Int.ofNat_le.mpr ((bound n given).trans (by decide))
    have low : -(Nat.pow 2 63 : Int) ≤ n := by omega
    simp only [Json.isExact, Bool.and_eq_true, decide_eq_true_eq]
    exact ⟨low, high⟩
  rw [toJson_eq]
  refine isExact_object_given ?_
  rw [parts]
  simp only [List.forall_mem_cons]
  exact ⟨color, text _, text _, text _, text _, text _, text _, isExact_fieldsPart _, text _,
    text _, text _, text _, time, List.forall_mem_nil _⟩

end Embed

namespace Message

variable {m : Message}

def parts (m : Message) : List (String × Option Json) :=
  [("content", m.content.map .string), ("embed", m.embed.map Embed.toJson)]

theorem toJson_eq (m : Message) : m.toJson = .object (given m.parts) := by
  obtain ⟨content, embed⟩ := m
  cases content <;> cases embed <;> rfl

theorem read?_toJson (colored : m.IsColored) : read? m.toJson = some m := by
  have apart : (m.parts.map Prod.fst).Nodup := by simp [parts]
  have members : among? ["content", "embed"] (.object (given m.parts)) = some (given m.parts) :=
    among?_given rfl
  have content : fieldIf? "content" Json.text? (given m.parts) = some m.content :=
    fieldIf?_given .string apart (by simp [parts]) fun _ _ => rfl
  have embed : fieldIf? "embed" Embed.read? (given m.parts) = some m.embed :=
    fieldIf?_given Embed.toJson apart (by simp [parts]) fun e there =>
      Embed.read?_toJson (colored e there)
  rw [toJson_eq, read?, bind_of_eq_some members, bind_of_eq_some content, bind_of_eq_some embed]
  rfl

theorem isExact_toJson (colored : m.IsColored) : m.toJson.isExact = true := by
  have content : ∀ j ∈ m.content.map Json.string, j.isExact = true :=
    isExact_of_mem_map fun _ _ => rfl
  have embed : ∀ j ∈ m.embed.map Embed.toJson, j.isExact = true :=
    isExact_of_mem_map fun e there => Embed.isExact_toJson (colored e there)
  rw [toJson_eq]
  refine isExact_object_given ?_
  rw [parts]
  simp only [List.forall_mem_cons]
  exact ⟨content, embed, List.forall_mem_nil _⟩

end Message

namespace Sending

variable {s : Sending}

def parts (s : Sending) : List (String × Option Json) :=
  [("destination", some s.destination.toJson), ("identity", s.identity.map SenderIdentity.toJson),
    ("message", some s.message.toJson)]

theorem toJson_eq (s : Sending) : s.toJson = .object (given s.parts) := by
  obtain ⟨destination, identity, message⟩ := s
  cases identity <;> rfl

theorem read?_toJson (colored : s.message.IsColored) : read? s.toJson = some s := by
  have apart : (s.parts.map Prod.fst).Nodup := by simp [parts]
  have members : among? ["destination", "identity", "message"] (.object (given s.parts)) =
      some (given s.parts) := among?_given rfl
  have destination : field? "destination" Destination.ofJson? (given s.parts) =
      some s.destination :=
    field?_given s.destination.toJson apart (by simp [parts]) s.destination.ofJson?_toJson
  have identity : fieldIf? "identity" SenderIdentity.read? (given s.parts) = some s.identity :=
    fieldIf?_given SenderIdentity.toJson apart (by simp [parts]) fun i _ => i.read?_toJson
  have message : field? "message" Message.read? (given s.parts) = some s.message :=
    field?_given s.message.toJson apart (by simp [parts]) (Message.read?_toJson colored)
  rw [toJson_eq, read?, bind_of_eq_some members, bind_of_eq_some destination,
    bind_of_eq_some identity, bind_of_eq_some message]
  rfl

theorem isExact_toJson (colored : s.message.IsColored) : s.toJson.isExact = true := by
  have destination : ∀ j ∈ some s.destination.toJson, j.isExact = true := by
    rintro j ⟨⟩
    exact s.destination.isExact_toJson
  have identity : ∀ j ∈ s.identity.map SenderIdentity.toJson, j.isExact = true :=
    isExact_of_mem_map fun i _ => i.isExact_toJson
  have message : ∀ j ∈ some s.message.toJson, j.isExact = true := by
    rintro j ⟨⟩
    exact Message.isExact_toJson colored
  rw [toJson_eq]
  refine isExact_object_given ?_
  rw [parts]
  simp only [List.forall_mem_cons]
  exact ⟨destination, identity, message, List.forall_mem_nil _⟩

end Sending

end EventAlerts
