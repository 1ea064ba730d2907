/-
  EventAlerts/Toml/Basic.lean
  ===========================
  **TOML values** — what a configuration file holds.

  Records are read from JSON values, so a TOML value is turned into one.  The two kinds
  of value differ in times, which JSON does not have; the caller says what becomes of
  their text.
-/
import EventAlerts.Json.Basic

namespace EventAlerts

/-- A TOML value. -/
inductive Toml
  | bool (value : Bool)
  | int (value : Int)
  | float (value : Float)
  | string (value : String)
  /-- A date, a time or both, as text. -/
  | time (text : String)
  | array (items : List Toml)
  | table (members : List (String × Toml))
  deriving Repr, Inhabited

namespace Toml

mutual

/-- The value as JSON, given how times are written. -/
def toJson (time : String → Json) : Toml → Json
  | .bool b => .bool b
  | .int n => .int n
  | .float f => .float f
  | .string s => .string s
  | .time text => time text
  | .array items => .array (itemsToJson time items)
  | .table members => .object (membersToJson time members)

def itemsToJson (time : String → Json) : List Toml → List Json
  | [] => []
  | t :: rest => toJson time t :: itemsToJson time rest

def membersToJson (time : String → Json) : List (String × Toml) → List (String × Json)
  | [] => []
  | (k, t) :: rest => (k, toJson time t) :: membersToJson time rest

end

/-- The member's name that marks a time written as an object. -/
def timeMark : String := "$__toml_private_datetime"

/-- A time as an object with a marked member. -/
def markedTime (text : String) : Json := .object [(timeMark, .string text)]

end Toml

end EventAlerts
