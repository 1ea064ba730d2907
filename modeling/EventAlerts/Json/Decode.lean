/-
  EventAlerts/Json/Decode.lean
  ============================
  **Records out of JSON** — how fields are read from a value.

  A record is an object, whose unknown members are ignored and whose known ones must
  not be repeated, or an array of its fields in order, whose last fields may be left
  out.  A field can have several names.  A reader of a field fails on a value of the
  wrong type; an optional field may be missing or null.
-/
import EventAlerts.Json.Basic

namespace EventAlerts.Json

/-- The values of all members with one of the names. -/
def membersNamed (names : List String) (members : List (String × Json)) : List Json :=
  (members.filter fun m => names.contains m.1).map Prod.snd

/-- The value of a field: at most one member may have one of its names. -/
def fieldOf? (names : List String) (members : List (String × Json)) : Option (Option Json) :=
  match membersNamed names members with
  | [] => some none
  | [j] => some (some j)
  | _ => none

/-- The fields of a record, each given by its names: what is written for it, if
    anything is. -/
def fields? (names : List (List String)) (j : Json) : Option (List (Option Json)) :=
  match j with
  | .object members => names.mapM fun n => fieldOf? n members
  | .array items =>
    if names.length < items.length then none
    else some (items.map some ++ List.replicate (names.length - items.length) none)
  | _ => none

/-! ### Readers -/

def text? : Json → Option String
  | .string s => some s
  | _ => none

def bool? : Json → Option Bool
  | .bool b => some b
  | _ => none

/-- A number, whole or not, as a floating point number. -/
def number? (toFloat : Int → Float) : Json → Option Float
  | .int n => some (toFloat n)
  | .float f => some f
  | _ => none

/-- A whole number from zero to `high`. -/
def nat? (high : Nat) : Json → Option Nat
  | .int n => if 0 ≤ n && n ≤ high then some n.toNat else none
  | _ => none

/-- All items of an array. -/
def list? (read : Json → Option α) : Json → Option (List α)
  | .array items => items.mapM read
  | _ => none

/-- Puts a text under a key, in place of one under the same key. -/
def insertText (key value : String) : List (String × String) → List (String × String)
  | [] => [(key, value)]
  | (k, v) :: rest =>
    if key < k then (key, value) :: (k, v) :: rest
    else if key = k then (key, value) :: rest
    else (k, v) :: insertText key value rest

/-- An object with texts as values, sorted by key; the last of repeated keys counts. -/
def textMap? : Json → Option (List (String × String))
  | .object members => do
    let texts ← members.mapM fun m => (text? m.2).map fun s => (m.1, s)
    return texts.foldl (fun sorted m => insertText m.1 m.2 sorted) []
  | _ => none

/-- How deeply a value that is kept as it is may be nested: a document may be nested one
    level more, and the value is a field of it. -/
def maxDepth : Nat := 126

mutual

/-- The value with every number that is not finite made null. -/
def finite : Json → Json
  | .float f => if f.isFinite then .float f else .null
  | .array items => .array (finiteItems items)
  | .object members => .object (finiteMembers members)
  | j => j

def finiteItems : List Json → List Json
  | [] => []
  | j :: rest => finite j :: finiteItems rest

def finiteMembers : List (String × Json) → List (String × Json)
  | [] => []
  | (k, j) :: rest => (k, finite j) :: finiteMembers rest

end

/-- Any value that can be held, its objects sorted. -/
def any? (j : Json) : Option Json :=
  if j.readable && j.depth ≤ maxDepth then some j.finite.canonical else none

/-- An object that can be held, sorted. -/
def members? (j : Json) : Option (List (String × Json)) :=
  match any? j with
  | some (.object members) => some members
  | _ => none

/-! ### Fields -/

/-- A field that must be there. -/
def required (read : Json → Option α) (field : Option Json) : Option α := field.bind read

/-- A field that may be missing or null. -/
def optional (read : Json → Option α) (field : Option Json) : Option (Option α) :=
  match field with
  | none => some none
  | some .null => some none
  | some j => (read j).map some

/-- A field with a value of its own when it is missing. -/
def defaulting (value : α) (read : Json → Option α) (field : Option Json) : Option α :=
  match field with
  | none => some value
  | some j => read j

/-! ### Writing -/

def ofText? : Option String → Json
  | some s => .string s
  | none => .null

def ofTexts (texts : List String) : Json := .array (texts.map .string)

end EventAlerts.Json
