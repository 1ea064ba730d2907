/-
  EventAlerts/Rule/File.lean
  ==========================
  **Alerts files** — settings of the engine and the rules.

  The settings must be right.  A rule that cannot be read is left out, and the others
  count as if it were not there.  The two settings are spans; results of reading
  category names may be kept for any time, but registries have to be polled after some.
-/
import EventAlerts.Rule.Basic
import EventAlerts.Time.SpanText
import EventAlerts.Toml.Parser

namespace EventAlerts

open EventAlerts.Time (Span)

/-- The settings of the engine. -/
structure EngineSettings where
  /-- How long category names are kept. -/
  categoryLifetime : Span := Rule.Resolver.defaultLifetime
  /-- How often a host's registries are looked at if it does not report new ones. -/
  pollInterval : Span := 5 * Time.nanosPerSecond
  deriving Repr, DecidableEq, Inhabited

/-- Why an alerts file could not be loaded. -/
inductive ConfigError
  /-- There is no such file, or it is no text. -/
  | unreadable
  /-- It is no TOML, or holds something in the wrong form. -/
  | malformed
  /-- A setting has a value that cannot be used. -/
  | invalid (key reason : String)
  deriving Repr, DecidableEq

/-- What is shown for an error.  Errors in a file's text have no wording of their own. -/
def ConfigError.message? : ConfigError → Option String
  | .invalid key reason => some ("invalid [engine] setting " ++ key ++ ": " ++ reason)
  | _ => none

namespace EngineSettings

def fieldNames : List (List String) := [["category_ttl"], ["poll_interval"]]

/-- Whether an object has members of these names only. -/
def hasOnly (names : List (List String)) : Json → Bool
  | .object members => members.all fun m => names.any fun n => n.contains m.1
  | _ => true

def span? : Json → Option Span
  | .string s => Time.spanOfText? s
  | _ => none

def ofJson? (j : Json) : Option EngineSettings := do
  let [categoryLifetime, pollInterval] ← j.fields? fieldNames | none
  if hasOnly fieldNames j then
    return {
      categoryLifetime := ← Json.defaulting Rule.Resolver.defaultLifetime span? categoryLifetime
      pollInterval := ← Json.defaulting (5 * Time.nanosPerSecond) span? pollInterval }
  else none

/-- The settings, if they can be used. -/
def validate (s : EngineSettings) : Except ConfigError EngineSettings :=
  if s.pollInterval = 0 then .error (.invalid "poll_interval" "must be greater than zero")
  else .ok s

end EngineSettings

/-- The settings and entries of a file, before the entries are read. -/
structure RawAlertsFile where
  settings : EngineSettings := {}
  entries : List Toml := []

/-- The settings and rules of a file. -/
structure AlertsFile where
  settings : EngineSettings := {}
  rules : List AlertRule := []
  deriving Repr, DecidableEq, Inhabited

namespace RawAlertsFile

/-- The member of a table that has one of the names, if at most one has. -/
def memberOf? (names : List String) (members : List (String × Toml)) : Option (Option Toml) :=
  match members.filter fun m => names.contains m.1 with
  | [] => some none
  | [m] => some (some m.2)
  | _ => none

def settings? : Option Toml → Option EngineSettings
  | none => some {}
  | some t => EngineSettings.ofJson? (t.toJson Toml.markedTime)

def entries? : Option Toml → Option (List Toml)
  | none => some []
  | some (.array items) => some items
  | some _ => none

def ofToml? : Toml → Option RawAlertsFile
  | .table members => do
    let settings ← settings? (← memberOf? ["engine"] members)
    let entries ← entries? (← memberOf? ["alerts", "Alerts"] members)
    return { settings := settings, entries := entries }
  | _ => none

end RawAlertsFile

namespace AlertsFile

/-- The rule that an entry holds.  A time counts as its text. -/
def ruleOf? (entry : Toml) : Option AlertRule := AlertRule.ofJson? (entry.toJson Json.string)

/-- Reads an alerts file. -/
def parse (content : String) : Except ConfigError AlertsFile :=
  match (Toml.parse? content).bind RawAlertsFile.ofToml? with
  | none => .error .malformed
  | some raw => do
    let settings ← raw.settings.validate
    return { settings := settings, rules := raw.entries.filterMap ruleOf? }

/-- Reads the file that a lookup gives, unless it is missing or no text. -/
def load (bytes? : Option ByteArray) : Except ConfigError AlertsFile :=
  match bytes?.bind String.fromUTF8? with
  | none => .error .unreadable
  | some content => parse content

end AlertsFile

end EventAlerts
