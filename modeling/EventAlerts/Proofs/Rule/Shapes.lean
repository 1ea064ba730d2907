/-
  EventAlerts/Proofs/Rule/Shapes.lean
  ===================================
  **The shapes of a rule** — which entries are rules, and which rule each of them is.

  A field may be written in several ways: one value in place of a list, a number or a truth
  value in place of a text, a word for a truth value.  Each way is a constructor here (`OneOrMany`,
  `IsScalar`, `IsFlag`, `IsDestinations`), and every field is said once at most, under one of its
  names (`Says`).  The reader agrees with these rules field by field, so a rule is read
  exactly from what has its shape (`ofJson?_eq_some_iff`).
-/
import EventAlerts.Proofs.Rule.Distinct
import EventAlerts.Rule.Basic
import Mathlib.Data.List.Forall2

namespace EventAlerts

/-! ### Fields -/

variable {α β : Type}

/-- Whether members say a value under the names of a field, or nothing. -/
def Says (members : List (String × β)) (names : List String) (value : Option β) : Prop :=
  (members.filter fun member => names.contains member.1).map Prod.snd = value.toList

/-- A field's value, or what counts when nothing is said. -/
inductive OrElse (default : α) (Is : β → α → Prop) : Option β → α → Prop
  | absent : OrElse default Is none default
  | said {b : β} {a : α} (shape : Is b a) : OrElse default Is (some b) a

theorem mapM_eq_some_iff {read : β → Option α} {Is : β → α → Prop}
    (iff : ∀ b a, read b = some a ↔ Is b a) {items : List β} {values : List α} :
    items.mapM read = some values ↔ List.Forall₂ Is items values := by
  induction items generalizing values with
  | nil => simp [eq_comm]
  | cons b items ih =>
    rw [List.mapM_cons]
    constructor
    · intro h
      obtain ⟨a, here, h⟩ := Option.bind_eq_some_iff.mp h
      obtain ⟨others, later, h⟩ := Option.bind_eq_some_iff.mp h
      obtain rfl := Option.some.inj h
      exact .cons ((iff b a).mp here) (ih.mp later)
    · rintro (_ | ⟨here, later⟩)
      simp [(iff _ _).mpr here, ih.mpr later]

namespace Json

variable {read : Json → Option α} {Is : Json → α → Prop}

theorem fieldOf?_eq_some_iff {names : List String} {members : List (String × Json)}
    {value : Option Json} : fieldOf? names members = some value ↔ Says members names value := by
  rw [fieldOf?, Says, ← membersNamed]
  cases value with
  | none => split <;> simp_all
  | some j => split <;> simp_all

theorem fields?_object_eq_some_iff {members : List (String × Json)} {names : List (List String)}
    {values : List (Option Json)} :
    fields? names (.object members) = some values ↔
      List.Forall₂ (Says members) names values :=
  mapM_eq_some_iff fun _ _ => fieldOf?_eq_some_iff

theorem defaulting_eq_some_iff (iff : ∀ j a, read j = some a ↔ Is j a) {default : α}
    {field : Option Json} {a : α} :
    defaulting default read field = some a ↔ OrElse default Is field a := by
  constructor
  · intro h
    cases field with
    | none =>
      obtain rfl := Option.some.inj h
      exact .absent
    | some j => exact .said ((iff j a).mp h)
  · rintro (_ | shape)
    · rfl
    · exact (iff _ a).mpr shape

def IsText (j : Json) (s : String) : Prop := j = .string s

theorem text?_eq_some_iff (j : Json) (s : String) : text? j = some s ↔ IsText j s := by
  cases j <;> simp [text?, IsText]

theorem bool?_eq_some_iff (j : Json) (b : Bool) : bool? j = some b ↔ j = .bool b := by
  cases j <;> simp [bool?]

theorem list?_eq_some_iff (iff : ∀ j a, read j = some a ↔ Is j a) {j : Json} {values : List α} :
    list? read j = some values ↔ ∃ items, j = .array items ∧ List.Forall₂ Is items values := by
  cases j with
  | array items => simp [list?, mapM_eq_some_iff iff]
  | _ => simp [list?]

end Json

namespace AlertRule

open Json (IsText)
open EventAlerts.Rule (Trigger)

variable {read : Json → Option α} {Is : Json → α → Prop}

/-! ### Ways to write a value -/

/-- One value stands for a list of one. -/
inductive OneOrMany (Is : Json → α → Prop) : Json → List α → Prop
  | one {j : Json} {a : α} (shape : Is j a) : OneOrMany Is j [a]
  | many {items : List Json} {values : List α} (shapes : List.Forall₂ Is items values) :
      OneOrMany Is (.array items) values

/-- A text, or a number or a truth value without quotes. -/
inductive IsScalar : Json → String → Prop
  | text (s : String) : IsScalar (.string s) s
  | number (n : Int) : IsScalar (.int n) (toString n)
  | yes : IsScalar (.bool true) "true"
  | no : IsScalar (.bool false) "false"

/-- A truth value, a number that is not zero for true, or a word. -/
inductive IsFlag : Json → Bool → Prop
  | truth (b : Bool) : IsFlag (.bool b) b
  | zero : IsFlag (.int 0) false
  | number {n : Int} (other : n ≠ 0) : IsFlag (.int n) true
  | yes {s : String} (word : Text.lower (Text.trim s) ∈ ["true", "yes"]) :
      IsFlag (.string s) true
  | no {s : String} (word : Text.lower (Text.trim s) ∈ ["false", "no"]) :
      IsFlag (.string s) false

inductive IsDestinations : Json → DestinationNames → Prop
  | single (s : String) : IsDestinations (.string s) (.single s)
  | list {items : List Json} {names : List String} (shapes : List.Forall₂ IsText items names) :
      IsDestinations (.array items) (.list names)

/-- A text, or null for none. -/
inductive IsName : Json → Option String → Prop
  | none : IsName .null none
  | some (s : String) : IsName (.string s) (some s)

theorem scalarText?_eq_some_iff (j : Json) (s : String) :
    scalarText? j = some s ↔ IsScalar j s := by
  constructor
  · intro h
    cases j with
    | bool b =>
      cases b
      · obtain rfl := Option.some.inj h
        exact .no
      · obtain rfl := Option.some.inj h
        exact .yes
    | int n =>
      obtain rfl := Option.some.inj h
      exact .number n
    | string t =>
      obtain rfl := Option.some.inj h
      exact .text t
    | _ => cases h
  · rintro (_ | _ | _ | _) <;> rfl

theorem boolOfWord?_eq_some_iff (s : String) (b : Bool) :
    boolOfWord? s = some b ↔
      Text.lower (Text.trim s) ∈ (if b then ["true", "yes"] else ["false", "no"]) := by
  simp only [boolOfWord?, Bool.or_eq_true, decide_eq_true_eq]
  split
  · rename_i word
    rcases word with word | word
    · cases b <;> simp [word]
    · cases b <;> simp [word]
  · rename_i other
    split
    · rename_i word
      rcases word with word | word
      · cases b <;> simp [word]
      · cases b <;> simp [word]
    · rename_i unknown
      cases b
      · simpa using unknown
      · simpa using other

theorem flexibleBool?_eq_some_iff (j : Json) (b : Bool) :
    flexibleBool? j = some b ↔ IsFlag j b := by
  constructor
  · intro h
    cases j with
    | bool c =>
      obtain rfl := Option.some.inj h
      exact .truth c
    | int n =>
      obtain rfl := Option.some.inj h
      by_cases zero : n = 0
      · simpa [zero] using IsFlag.zero
      · simpa [zero] using IsFlag.number zero
    | string s =>
      have word := (boolOfWord?_eq_some_iff s b).mp h
      cases b
      · rw [if_neg Bool.false_ne_true] at word
        exact .no word
      · rw [if_pos rfl] at word
        exact .yes word
    | _ => cases h
  · rintro (_ | _ | other | word | word)
    · rfl
    · rfl
    · simp [flexibleBool?, other]
    · rw [flexibleBool?, boolOfWord?_eq_some_iff, if_pos rfl]
      exact word
    · rw [flexibleBool?, boolOfWord?_eq_some_iff, if_neg Bool.false_ne_true]
      exact word

theorem destinations?_eq_some_iff (j : Json) (d : DestinationNames) :
    destinations? j = some d ↔ IsDestinations j d := by
  constructor
  · intro h
    cases j with
    | string s =>
      obtain rfl := Option.some.inj h
      exact .single s
    | array items =>
      obtain ⟨names, read, rfl⟩ := Option.map_eq_some_iff.mp h
      exact .list ((mapM_eq_some_iff Json.text?_eq_some_iff).mp read)
    | _ => cases h
  · rintro (_ | shapes)
    · rfl
    · exact Option.map_eq_some_iff.mpr
        ⟨_, (mapM_eq_some_iff Json.text?_eq_some_iff).mpr shapes, rfl⟩

theorem oneOrMany?_eq_some_iff (iff : ∀ j a, read j = some a ↔ Is j a)
    (single : ∀ items, read (.array items) = none) (j : Json) (values : List α) :
    oneOrMany? read j = some values ↔ OneOrMany Is j values := by
  constructor
  · intro h
    unfold oneOrMany? at h
    split at h
    · rename_i a one
      obtain rfl := Option.some.inj h
      exact .one ((iff j a).mp one)
    · obtain ⟨items, rfl, shapes⟩ := (Json.list?_eq_some_iff iff).mp h
      exact .many shapes
  · rintro (shape | shapes)
    · rw [oneOrMany?, (iff _ _).mpr shape]
    · rw [oneOrMany?, single]
      exact (Json.list?_eq_some_iff iff).mpr ⟨_, rfl, shapes⟩

theorem optional_text?_eq_some_iff (field : Option Json) (name : Option String) :
    Json.optional Json.text? field = some name ↔ OrElse none IsName field name := by
  constructor
  · intro h
    cases field with
    | none =>
      obtain rfl := Option.some.inj h
      exact .absent
    | some j =>
      cases j with
      | null =>
        obtain rfl := Option.some.inj h
        exact .said .none
      | string s =>
        obtain rfl := Option.some.inj h
        exact .said (.some s)
      | _ => cases h
  · rintro (_ | _ | _) <;> rfl

/-! ### Rules -/

/-- Whether an entry is written like a rule.  What the rule sends has a reader of its own. -/
def IsRule (entry : Json) (r : AlertRule) : Prop :=
  ∃ members, entry = .object members ∧
    ∃ name trigger channel conditions ignoreCancelled async raws,
      Says members ["name", "Name"] name ∧
      Says members ["trigger", "Trigger", "triggers"] (some trigger) ∧
      Says members ["channel", "Channel", "channels"] channel ∧
      Says members ["conditions", "Conditions"] conditions ∧
      Says members ["ignore_cancelled", "IgnoreCancelled"] ignoreCancelled ∧
      Says members ["async", "Async"] async ∧
      OrElse none IsName name r.name ∧
      OneOrMany IsText trigger raws ∧ r.triggers = Trigger.parseAll raws ∧
      OrElse (.list []) IsDestinations channel r.destinations ∧
      OrElse [] (OneOrMany IsScalar) conditions r.conditions ∧
      OrElse true (fun j b => j = .bool b) ignoreCancelled r.ignoreCancelled ∧
      OrElse true IsFlag async r.runAsync ∧
      MessageTemplate.ofJson? entry = some r.template

theorem fields?_eq_some_iff {members : List (String × Json)} {values : List (Option Json)} :
    (Json.object members).fields? fieldNames = some values ↔
      ∃ name trigger channel conditions ignoreCancelled async,
        values = [name, trigger, channel, conditions, ignoreCancelled, async] ∧
        Says members ["name", "Name"] name ∧
        Says members ["trigger", "Trigger", "triggers"] trigger ∧
        Says members ["channel", "Channel", "channels"] channel ∧
        Says members ["conditions", "Conditions"] conditions ∧
        Says members ["ignore_cancelled", "IgnoreCancelled"] ignoreCancelled ∧
        Says members ["async", "Async"] async := by
  rw [Json.fields?_object_eq_some_iff, fieldNames]
  constructor
  · rintro (_ | ⟨name, _ | ⟨trigger, _ | ⟨channel, _ | ⟨conditions, _ | ⟨ignoreCancelled,
      _ | ⟨async, _ | _⟩⟩⟩⟩⟩⟩)
    exact ⟨_, _, _, _, _, _, rfl, name, trigger, channel, conditions, ignoreCancelled, async⟩
  · rintro ⟨_, _, _, _, _, _, rfl, name, trigger, channel, conditions, ignoreCancelled, async⟩
    exact .cons name (.cons trigger (.cons channel (.cons conditions (.cons ignoreCancelled
      (.cons async .nil)))))

theorem triggers?_eq_some_iff (j : Json) (raws : List String) :
    oneOrMany? Json.text? j = some raws ↔ OneOrMany IsText j raws :=
  oneOrMany?_eq_some_iff Json.text?_eq_some_iff (fun _ => rfl) j raws

theorem conditions?_eq_some_iff (j : Json) (conditions : List String) :
    oneOrMany? scalarText? j = some conditions ↔ OneOrMany IsScalar j conditions :=
  oneOrMany?_eq_some_iff scalarText?_eq_some_iff (fun _ => rfl) j conditions

/-- A rule is read exactly from what is written like it. -/
theorem ofJson?_eq_some_iff (entry : Json) (r : AlertRule) :
    ofJson? entry = some r ↔ IsRule entry r := by
  constructor
  · intro h
    cases entry with
    | object members =>
      obtain ⟨values, fields, h⟩ := Option.bind_eq_some_iff.mp h
      obtain ⟨name, trigger, channel, conditions, ignoreCancelled, async, rfl, saysName,
        saysTrigger, saysChannel, saysConditions, saysIgnore, saysAsync⟩ :=
        fields?_eq_some_iff.mp fields
      obtain ⟨_, nameRead, h⟩ := Option.bind_eq_some_iff.mp h
      obtain ⟨raws, triggerRead, h⟩ := Option.bind_eq_some_iff.mp h
      obtain ⟨_, channelRead, h⟩ := Option.bind_eq_some_iff.mp h
      obtain ⟨_, conditionsRead, h⟩ := Option.bind_eq_some_iff.mp h
      obtain ⟨_, ignoreRead, h⟩ := Option.bind_eq_some_iff.mp h
      obtain ⟨_, asyncRead, h⟩ := Option.bind_eq_some_iff.mp h
      obtain ⟨_, templateRead, h⟩ := Option.bind_eq_some_iff.mp h
      obtain rfl := Option.some.inj h
      obtain ⟨j, rfl, rawsRead⟩ := Option.bind_eq_some_iff.mp triggerRead
      exact ⟨members, rfl, name, j, channel, conditions, ignoreCancelled, async, raws,
        saysName, saysTrigger, saysChannel, saysConditions, saysIgnore, saysAsync,
        (optional_text?_eq_some_iff name _).mp nameRead,
        (triggers?_eq_some_iff j raws).mp rawsRead, rfl,
        (Json.defaulting_eq_some_iff destinations?_eq_some_iff).mp channelRead,
        (Json.defaulting_eq_some_iff conditions?_eq_some_iff).mp conditionsRead,
        (Json.defaulting_eq_some_iff Json.bool?_eq_some_iff).mp ignoreRead,
        (Json.defaulting_eq_some_iff flexibleBool?_eq_some_iff).mp asyncRead, templateRead⟩
    | _ => cases h
  · rintro ⟨members, rfl, name, j, channel, conditions, ignoreCancelled, async, raws, saysName,
      saysTrigger, saysChannel, saysConditions, saysIgnore, saysAsync, nameIs, rawsAre,
      triggersAre, channelIs, conditionsAre, ignoreIs, asyncIs, templateRead⟩
    have fields := fields?_eq_some_iff.mpr ⟨name, some j, channel, conditions, ignoreCancelled,
      async, rfl, saysName, saysTrigger, saysChannel, saysConditions, saysIgnore, saysAsync⟩
    have nameRead := (optional_text?_eq_some_iff name r.name).mpr nameIs
    have triggerRead := (triggers?_eq_some_iff j raws).mpr rawsAre
    have channelRead := (Json.defaulting_eq_some_iff destinations?_eq_some_iff).mpr channelIs
    have conditionsRead := (Json.defaulting_eq_some_iff conditions?_eq_some_iff).mpr conditionsAre
    have ignoreRead := (Json.defaulting_eq_some_iff Json.bool?_eq_some_iff).mpr ignoreIs
    have asyncRead := (Json.defaulting_eq_some_iff flexibleBool?_eq_some_iff).mpr asyncIs
    refine Option.bind_eq_some_iff.mpr ⟨_, fields, ?_⟩
    refine Option.bind_eq_some_iff.mpr ⟨_, nameRead, ?_⟩
    refine Option.bind_eq_some_iff.mpr ⟨_, triggerRead, ?_⟩
    refine Option.bind_eq_some_iff.mpr ⟨_, channelRead, ?_⟩
    refine Option.bind_eq_some_iff.mpr ⟨_, conditionsRead, ?_⟩
    refine Option.bind_eq_some_iff.mpr ⟨_, ignoreRead, ?_⟩
    refine Option.bind_eq_some_iff.mpr ⟨_, asyncRead, ?_⟩
    refine Option.bind_eq_some_iff.mpr ⟨_, templateRead, ?_⟩
    rw [← triggersAre]
    rfl

end AlertRule

end EventAlerts
