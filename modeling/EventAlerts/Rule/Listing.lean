/-
  EventAlerts/Rule/Listing.lean
  =============================
  **Listing rules** — the rules of a file as a table or as data.

  A row of the table has a label and triggers, each filled up with blanks to a width,
  and the channels; the number of conditions follows if there are any, and a mark if
  the rule is not asynchronous.
-/
import EventAlerts.Json.Printer
import EventAlerts.Rule.File

namespace EventAlerts

/-- What a listing shows of a rule. -/
structure RuleSummary where
  label : String
  triggers : List String
  channels : List String
  /-- How many conditions the rule has. -/
  conditions : Nat
  runAsync : Bool
  ignoreCancelled : Bool
  deriving Repr, DecidableEq

namespace RuleSummary

def ofRule (index : Nat) (r : AlertRule) : RuleSummary :=
  { label := r.label index
    triggers := r.triggers.map Rule.Trigger.text
    channels := r.destinations.toList
    conditions := r.conditions.length
    runAsync := r.runAsync
    ignoreCancelled := r.ignoreCancelled }

/-- A text with blanks behind it up to a width. -/
def fillTo (width : Nat) (s : String) : String :=
  s ++ String.ofList (List.replicate (width - s.length) ' ')

def labelWidth : Nat := 20

def triggersWidth : Nat := 30

/-- The row of a rule. -/
def row (s : RuleSummary) : String :=
  fillTo labelWidth s.label ++ " " ++ fillTo triggersWidth (",".intercalate s.triggers) ++ " -> " ++
    ",".intercalate s.channels ++
    (if 0 < s.conditions then " [" ++ toString s.conditions ++ " conditions]" else "") ++
    (if s.runAsync then "" else " [sync]")

def toJson (s : RuleSummary) : Json :=
  .object [("label", .string s.label), ("triggers", .ofTexts s.triggers),
    ("channels", .ofTexts s.channels), ("conditions", .int s.conditions),
    ("async", .bool s.runAsync), ("ignore_cancelled", .bool s.ignoreCancelled)]

end RuleSummary

/-- The form of a listing. -/
inductive ListingFormat
  | table
  | json
  deriving Repr, DecidableEq

namespace AlertsFile

/-- What a listing shows, in the order of the file. -/
def summaries (f : AlertsFile) : List RuleSummary :=
  f.rules.mapIdx RuleSummary.ofRule

/-- The first row of the table. -/
def header : String :=
  RuleSummary.fillTo RuleSummary.labelWidth "RULE" ++ " " ++
    RuleSummary.fillTo RuleSummary.triggersWidth "TRIGGERS" ++ "    CHANNELS"

/-- The listing of a file. -/
def listing (f : AlertsFile) : ListingFormat → String
  | .table => "\n".intercalate (header :: f.summaries.map RuleSummary.row)
  | .json => (Json.object [("rules", .array (f.summaries.map RuleSummary.toJson))]).pretty 0

end AlertsFile

end EventAlerts
