/-
  EventAlerts/Rule/Basic.lean
  ===========================
  **Alert rules** — what to wait for, when to act, what to send and where to.

  A rule is read from one entry of an alerts file.  Most fields have a second
  spelling; an entry with both is refused.  A single trigger, channel or condition may
  stand for a list of one, conditions may be written without quotes if they are
  numbers or truth values, and `async` also takes numbers and the words yes and no.
-/
import EventAlerts.Rule.Template
import EventAlerts.Rule.Trigger

namespace EventAlerts

open EventAlerts.Rule (Trigger distinctBy)

/-- The names of the destinations of a rule. -/
inductive DestinationNames
  | single (name : String)
  | list (names : List String)
  deriving Repr, DecidableEq, Inhabited

namespace DestinationNames

def toList : DestinationNames → List String
  | .single name => [name]
  | .list names => names

/-- Whether nothing is named: a blank text, or a list without names. -/
def isEmpty : DestinationNames → Bool
  | .single name => Text.isAllBlank name
  | .list names => names.isEmpty

/-- Adds a name behind the others. -/
def push (d : DestinationNames) (name : String) : DestinationNames :=
  .list (d.toList ++ [name])

end DestinationNames

/-- A rule. -/
structure AlertRule where
  name : Option String := none
  triggers : List Trigger
  destinations : DestinationNames := .list []
  /-- Expressions that all have to hold. -/
  conditions : List String := []
  /-- Whether occurrences that are cancelled are left alone. -/
  ignoreCancelled : Bool := true
  /-- Whether the rule may run after the occurrence was handed back to the host. -/
  runAsync : Bool := true
  template : MessageTemplate := {}
  deriving Repr, DecidableEq, Inhabited

namespace AlertRule

/-- A rule with triggers and nothing else. -/
def ofTriggers (raws : List String) : AlertRule := { triggers := Trigger.parseAll raws }

/-- The name of a rule, or its place in the list of rules. -/
def label (r : AlertRule) (index : Nat) : String :=
  r.name.getD ("alert #" ++ toString index)

/-! ### Building -/

def named (r : AlertRule) (name : String) : AlertRule := { r with name := some name }

/-- Adds a destination. -/
def sentTo (r : AlertRule) (name : String) : AlertRule :=
  { r with destinations := r.destinations.push name }

/-- Adds a condition. -/
def onlyIf (r : AlertRule) (condition : String) : AlertRule :=
  { r with conditions := r.conditions ++ [condition] }

def withTemplate (r : AlertRule) (t : MessageTemplate) : AlertRule := { r with template := t }

def withContent (r : AlertRule) (s : String) : AlertRule :=
  { r with template := { r.template with content := some s } }

def synchronous (r : AlertRule) : AlertRule := { r with runAsync := false }

def includingCancelled (r : AlertRule) : AlertRule := { r with ignoreCancelled := false }

/-! ### Reading -/

/-- One value, or a list of them. -/
def oneOrMany? (read : Json → Option α) (j : Json) : Option (List α) :=
  match read j with
  | some a => some [a]
  | none => Json.list? read j

/-- A truth value, a whole number or a text, as text. -/
def scalarText? : Json → Option String
  | .bool b => some (if b then "true" else "false")
  | .int n => some (toString n)
  | .string s => some s
  | _ => none

/-- The words for true and false, in any case and with blanks around them. -/
def boolOfWord? (s : String) : Option Bool :=
  let word := Text.lower (Text.trim s)
  if word = "true" || word = "yes" then some true
  else if word = "false" || word = "no" then some false
  else none

/-- A truth value, a number that is not zero for true, or a word. -/
def flexibleBool? : Json → Option Bool
  | .bool b => some b
  | .int n => some (n ≠ 0)
  | .string s => boolOfWord? s
  | _ => none

def destinations? : Json → Option DestinationNames
  | .string s => some (.single s)
  | j => (Json.list? Json.text? j).map .list

/-- The names of a rule's own fields. -/
def fieldNames : List (List String) :=
  [["name", "Name"], ["trigger", "Trigger", "triggers"], ["channel", "Channel", "channels"],
   ["conditions", "Conditions"], ["ignore_cancelled", "IgnoreCancelled"], ["async", "Async"]]

/-- Reads a rule from an entry, which must be an object. -/
def ofJson? (j : Json) : Option AlertRule := do
  let .object members := j | none
  let [name, triggers, destinations, conditions, ignoreCancelled, runAsync] ←
    (Json.object members).fields? fieldNames | none
  return {
    name := ← Json.optional Json.text? name
    triggers := Trigger.parseAll (← Json.required (oneOrMany? Json.text?) triggers)
    destinations := ← Json.defaulting (.list []) destinations? destinations
    conditions := ← Json.defaulting [] (oneOrMany? scalarText?) conditions
    ignoreCancelled := ← Json.defaulting true Json.bool? ignoreCancelled
    runAsync := ← Json.defaulting true flexibleBool? runAsync
    template := ← MessageTemplate.ofJson? j }

end AlertRule

end EventAlerts
