/-
  EventAlerts/Program/Platform.lean
  =================================
  **The simulated platform** — the channel directory and the host's environment, read
  from the tables `messaging` and `environment` of a file.
-/
import EventAlerts.Host.Environment
import EventAlerts.Messaging.Directory
import EventAlerts.Toml.Parser

namespace EventAlerts

/-- The messaging platform and the host that a program simulates. -/
structure Platform where
  directory : Directory := {}
  environment : FixedEnvironment := {}
  deriving Inhabited

namespace Platform

def ofJson? (j : Json) : Option Platform := do
  let [messaging, environment] ← j.fields? [["messaging"], ["environment"]] | none
  return {
    directory := ← Json.defaulting {} Directory.ofJson? messaging
    environment := ← Json.defaulting {} FixedEnvironment.ofJson? environment }

/-- Reads the tables from the text of a file. -/
def parse? (content : String) : Option Platform := do
  ofJson? ((← Toml.parse? content).toJson Toml.markedTime)

end Platform

end EventAlerts
