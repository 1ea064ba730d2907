/-
  EventAlerts/Proofs/Render/Reserved.lean
  =======================================
  **Reserved names** — what they are bound to, and when a field of the occurrence shows
  under one of them.

  `own?` is the meaning that the bindings give a reserved name themselves, and `field?` is
  what the occurrence holds under a name.  The meaning is put in behind the fields, so it
  hides a field of that name.  But four of the meanings can be absent, and then nothing is
  put in, and the name is bound to the field if there is one.  It is undefined, and does not
  depend on the occurrence's data, exactly if there is no such field.
-/
import EventAlerts.Proofs.Render.Bindings

namespace EventAlerts

open EventAlerts.Expr (Value Bindings)

namespace Json

/-! ### Members -/

theorem member?_append (name : String) (members others : List (String × Json)) :
    member? name (members ++ others) = (member? name members).or (member? name others) := by
  induction members with
  | nil => rfl
  | cons m rest ih =>
    obtain ⟨k, v⟩ := m
    by_cases here : k = name
    · simp [member?, here]
    · simpa [member?, here] using ih

/-- Of members put in one after the other, the last with a name is found. -/
theorem member?_foldl_insertMember (name : String) (added members : List (String × Json)) :
    member? name (added.foldl (fun sorted m => insertMember m.1 m.2 sorted) members) =
      (member? name added.reverse).or (member? name members) := by
  induction added generalizing members with
  | nil => rfl
  | cons m rest ih =>
    rw [List.foldl_cons, ih, member?_insertMember, List.reverse_cons, member?_append,
      Option.or_assoc]
    by_cases here : m.1 = name
    · simp [member?, here]
    · simp [member?, here]

theorem member?_eq_none {name : String} {members : List (String × Json)}
    (absent : name ∉ members.map Prod.fst) : member? name members = none := by
  induction members with
  | nil => rfl
  | cons m rest ih =>
    obtain ⟨other, later⟩ := not_or.mp (mt List.mem_cons.mpr absent)
    rw [member?, if_neg (Ne.symm other), ih later]

theorem member?_reverse {members : List (String × Json)}
    (distinct : (members.map Prod.fst).Nodup) (name : String) :
    member? name members.reverse = member? name members := by
  induction members with
  | nil => rfl
  | cons m rest ih =>
    obtain ⟨once, distinct⟩ := List.nodup_cons.mp distinct
    rw [List.reverse_cons, member?_append, ih distinct]
    by_cases here : m.1 = name
    · rw [member?_eq_none (here ▸ once), Option.none_or]
      simp [member?, here]
    · simp [member?, here]

end Json

/-! ### Attributes of data -/

namespace Expr.Value

theorem compareValues_text (s t : String) : compareValues (.text s) (.text t) = compare s t := by
  simp [compareValues, compareScalars, coerceExactly, coerceBy, kind, Kind.rank]

/-- The attribute of an object is made from the member of that name. -/
theorem attr_ofJson (place : Place) (members : List (String × Json)) (name : String) :
    (ofJson place (.object members)).attr name =
      ((Json.member? name members).map (ofJson (.attr place name))).getD .undefined := by
  have entry : entryAt? (.text name) (ofMembers place members) =
      (Json.member? name members).map (ofJson (.attr place name)) := by
    induction members with
    | nil => rfl
    | cons m rest ih =>
      obtain ⟨k, j⟩ := m
      by_cases here : k = name
      · simp [ofMembers, entryAt?, compareValues_text, Json.member?, here]
      · simp [ofMembers, entryAt?, compareValues_text, Json.member?, here, ih]
  rw [ofJson, attr, item, entry]

end Expr.Value

namespace RenderContext

/-! ### Meanings and fields -/

/-- The names that have a meaning of their own. -/
def reservedNames : List String :=
  ["event", "category", "player", "sender", "command", "args", "allArgs", "channel", "server",
    "bot"]

/-- What a name means whatever data the occurrence has, if it is reserved and there is such a
    thing. -/
def own? (c : RenderContext) : String → Option Json
  | "event" => some c.event
  | "category" => some (.string c.category)
  | "player" => c.actor.map Actor.toJson
  | "sender" => c.sender.map Json.string
  | "command" => c.command.map Json.string
  | "args" => some (.ofTexts c.args)
  | "allArgs" => some (.string c.allArgs)
  | "channel" => c.destination.map Destination.toJson
  | "server" => some c.server
  | "bot" => some c.bot.toJson
  | _ => none

/-- The field of the occurrence with a name, the last one if there are several. -/
def field? (c : RenderContext) (name : String) : Option Json :=
  Json.member? name c.eventFields.reverse

theorem member?_reverse_bindingOf (name key : String) (f : α → Json) (o : Option α) :
    Json.member? name (bindingOf key f o).reverse = if key = name then o.map f else none := by
  cases o with
  | none => simp [bindingOf, Json.member?]
  | some a => rfl

theorem member?_reserved (c : RenderContext) (name : String) :
    Json.member? name c.reserved.reverse = c.own? name := by
  simp only [reserved, List.reverse_append, Json.member?_append, member?_reverse_bindingOf]
  symm
  unfold own?
  split <;> simp_all [Json.member?, eq_comm]

theorem member?_vars (c : RenderContext) (name : String) :
    Json.member? name c.vars = (c.own? name).or (c.field? name) := by
  rw [vars, Json.member?_foldl_insertMember, member?_reserved, Json.sortMembers,
    Json.member?_foldl_insertMember]
  exact congrArg (c.own? name).or (Option.or_none)

theorem own?_eq_none {c : RenderContext} {name : String} (other : name ∉ reservedNames) :
    c.own? name = none := by
  unfold own?
  split
  case h_11 => rfl
  all_goals exact absurd (by decide) other

/-- The meanings that can be absent are those of four names. -/
theorem optional_of_own?_eq_none {c : RenderContext} {name : String}
    (reserved : name ∈ reservedNames) (absent : c.own? name = none) :
    name ∈ ["player", "sender", "command", "channel"] := by
  unfold own? at absent
  split at absent <;> simp_all [reservedNames]

/-- Only `event` means something of the occurrence's data. -/
theorem own?_withEvent (c : RenderContext) (event : Json) {name : String} (other : name ≠ "event") :
    { c with event := event }.own? name = c.own? name := by
  unfold own?
  split
  · exact absurd rfl other
  all_goals rfl

theorem find?_eq (c : RenderContext) (name : String) :
    c.bindings.find? name =
      ((c.own? name).or (c.field? name)).map (Value.ofJson (.variable name)) := by
  rw [find?_bindings, member?_vars]

theorem attr_event {c : RenderContext} {name : String} {value : Json}
    (distinct : (c.eventFields.map Prod.fst).Nodup) (there : c.field? name = some value) :
    (Value.ofJson (.variable "event") c.event).attr name =
      Value.ofJson (.attr (.variable "event") name) value := by
  rw [field?, Json.member?_reverse distinct] at there
  unfold eventFields at there
  split at there
  · rename_i members object
    rw [object, Value.attr_ofJson, there]
    rfl
  · cases there

/-- What names are bound to.

    A name is bound to its own meaning, or else to the occurrence's field of that name, or
    else to nothing.  A name that is reserved can be without a meaning if it is one of
    `player`, `sender`, `command` and `channel`, and then a field shows under it.  So the
    occurrence's data has no part in what a reserved name is bound to exactly if the meaning
    is there or the field is not.  Contexts that differ only in this data agree on every
    reserved name but `event` that has a meaning, and on the others if they agree on the
    field.  Any other name is bound to the same data as the attribute of `event`. -/
theorem bound_by_meaning_or_field (c : RenderContext) :
    (∀ name, c.bindings.find? name =
      ((c.own? name).or (c.field? name)).map (Value.ofJson (.variable name))) ∧
    (∀ name ∈ reservedNames, c.own? name = none →
      name ∈ ["player", "sender", "command", "channel"]) ∧
    (∀ name ∈ reservedNames,
      c.bindings.find? name = (c.own? name).map (Value.ofJson (.variable name)) ↔
        c.own? name ≠ none ∨ c.field? name = none) ∧
    (∀ event, let other := { c with event := event }
      ∀ name ∈ reservedNames, name ≠ "event" →
        c.own? name ≠ none ∨ other.field? name = c.field? name →
        other.bindings.find? name = c.bindings.find? name) ∧
    (∀ name ∉ reservedNames,
      c.bindings.find? name = (c.field? name).map (Value.ofJson (.variable name)) ∧
      ((c.eventFields.map Prod.fst).Nodup → ∀ value, c.field? name = some value →
        ∃ event, c.bindings.find? "event" = some event ∧
          event.attr name = Value.ofJson (.attr (.variable "event") name) value)) := by
  refine ⟨c.find?_eq, fun _ => optional_of_own?_eq_none, ?exactly, ?agree, ?bare⟩
  case exactly =>
    intro name _
    rw [find?_eq]
    cases own : c.own? name with
    | some meaning => simp
    | none => simp
  case agree =>
    intro event other name _ apart same
    rw [find?_eq, find?_eq, own?_withEvent c event apart]
    rcases same with there | same
    · obtain ⟨meaning, own⟩ := Option.ne_none_iff_exists'.mp there
      rw [own, Option.some_or, Option.some_or]
    · rw [same]
  case bare =>
    intro name unreserved
    refine ⟨?_, ?_⟩
    · rw [find?_eq, own?_eq_none unreserved, Option.none_or]
    · intro distinct value there
      exact ⟨_, c.find?_eq "event", attr_event distinct there⟩

/-- Without an actor, a field called `player` is taken for one. -/
theorem player_of_field :
    let c : RenderContext := { event := .object [("player", .string "Mallory")] }
    c.own? "player" = none ∧ c.bindings.find? "player" = some (.text "Mallory") ∧
      { c with event := .null }.bindings.find? "player" = none := by
  refine ⟨rfl, ?_, ?_⟩
  · rw [find?_eq]
    rfl
  · rw [find?_eq]
    rfl

end RenderContext

end EventAlerts
