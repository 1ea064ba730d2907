/-
  EventAlerts/Program/Replay.lean
  ===============================
  **Replaying** — recorded occurrences, one on each line, played through a host of their
  own.

  Blank lines count for nothing.  A line that is no record is counted as skipped and
  does nothing else.  A line whose record makes the engine overrun ends the replay without a
  result.  Tasks are taken up after the last line.  A carriage return before
  a line feed needs no care: it is a blank, and between the tokens of a record it may
  stand as well.
-/
import EventAlerts.Engine.Basic
import EventAlerts.Json.Parser
import EventAlerts.Occurrence.Record
import EventAlerts.Program.Platform

namespace EventAlerts

open EventAlerts.Rule (Overrun)
open EventAlerts.Time (Stamp)

/-- Why a replay did not come to its end. -/
inductive ReplayError
  /-- The platform's tables cannot be read. -/
  | platform
  | config (e : ConfigError)
  /-- The input is no text. -/
  | input
  /-- The engine has overrun the clock. -/
  | overrun
  deriving Repr, DecidableEq

/-- An engine on a host of its own, with the counts of lines. -/
structure Replay where
  engine : Engine
  fired : Nat := 0
  skipped : Nat := 0

namespace Replay

/-- A replay before its first line. -/
def start (alerts : String) (platform : Platform) (now : Stamp) : Except ConfigError Replay := do
  let file ← AlertsFile.parse alerts
  let engine :=
    (Engine.ofParts file.settings platform.environment.toEnvironment {} platform.directory
      now).withSource (.text alerts)
  let (loaded, engine) := engine.reload
  let _ ← loaded
  return { engine := engine }

/-- The record on a line. -/
def recordOf? (line : String) : Option Record := (Json.parse? line).bind Record.ofJson?

/-- Plays a line. -/
def feed (r : Replay) (line : String) : Except Overrun Replay :=
  if Text.isAllBlank line then .ok r
  else
    match recordOf? line with
    | some record =>
      let (answer, engine) := r.engine.fire record.category record.toOccurrence
      answer.map fun _ => { r with engine := engine, fired := r.fired + 1 }
    | none => .ok { r with skipped := r.skipped + 1 }

/-- The lines of a text. -/
def linesOf (input : String) : List String :=
  (Text.splitWhere (· = '\n') input.toList).map String.ofList

/-- Plays all lines, and takes up what they leave. -/
def run (r : Replay) (input : String) : Except Overrun Replay := do
  let r ← (linesOf input).foldlM feed r
  return { r with engine := r.engine.settle }

/-- What the console shows.  Every destination is one of the directory, so that the
    console takes all deliveries. -/
def lines (r : Replay) : List String := r.engine.outbox.platform.deliveries.map Sending.line

/-- Plays an input with the rules and the platform of two texts. -/
def ofInput (alerts platform : String) (input : ByteArray) (now : Stamp) :
    Except ReplayError Replay := do
  let some platform := Platform.parse? platform | throw .platform
  let r ← (start alerts platform now).mapError .config
  let some input := String.fromUTF8? input | throw .input
  (r.run input).mapError fun _ => .overrun

end Replay

end EventAlerts
