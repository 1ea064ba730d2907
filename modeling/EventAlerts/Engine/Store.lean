/-
  EventAlerts/Engine/Store.lean
  =============================
  **Where rules come from and where they are kept.**

  A source is asked for its rules on every reload.  The store holds the rules of the
  last one; who has taken its rules keeps them, whatever becomes of the store.
-/
import EventAlerts.Rule.File

namespace EventAlerts

/-- Where rules come from. -/
inductive RuleSource
  /-- A list in memory. -/
  | fixed (rules : List AlertRule)
  /-- The text of an alerts file. -/
  | text (content : String)
  /-- The bytes of an alerts file, unless there is no such file. -/
  | file (bytes? : Option ByteArray)

/-- The rules that a source has now. -/
def RuleSource.load : RuleSource → Except ConfigError (List AlertRule)
  | .fixed rules => .ok rules
  | .text content => (AlertsFile.parse content).map (·.rules)
  | .file bytes? => (AlertsFile.load bytes?).map (·.rules)

/-- The rules that are in force. -/
structure AlertStore where
  rules : List AlertRule := []
  deriving Repr, DecidableEq, Inhabited

namespace AlertStore

/-- The store with other rules. -/
def replace (_ : AlertStore) (rules : List AlertRule) : AlertStore := { rules := rules }

def size (s : AlertStore) : Nat := s.rules.length

def isEmpty (s : AlertStore) : Bool := s.rules.isEmpty

/-- What the rules are called. -/
def labels (s : AlertStore) : List String := s.rules.mapIdx fun index r => r.label index

end AlertStore

end EventAlerts
