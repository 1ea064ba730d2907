/-
  EventAlerts/Time/Clock.lean
  ===========================
  **A clock set by hand** — the monotonic time that cached results expire by, and the
  wall time that messages show, moved on together.

  Both readings have a range.  A step out of the range of either is refused.  The
  wall time moves by spans of up to `longestStep`; by a longer span it does not move,
  while the monotonic time still does.
-/
import EventAlerts.Time.Stamp

namespace EventAlerts.Time

/-- The last reading of monotonic time: 2^63 seconds less a nanosecond. -/
def latestReading : Span := Nat.pow 2 63 * nanosPerSecond - 1

/-- The longest span that wall time moves by: 2^63 - 1 milliseconds. -/
def longestStep : Span := (Nat.pow 2 63 - 1) * nanosPerMilli

/-- A clock with its two readings. -/
structure Clock where
  /-- Monotonic time, counted from when the clock was made. -/
  elapsed : Span := 0
  wall : Stamp := ⟨0⟩
  deriving Repr, DecidableEq, Inhabited

namespace Clock

/-- A clock that starts at a wall time. -/
def startingAt (wall : Stamp) : Clock := { wall := wall }

/-- The wall time after a step. -/
def stepWall (wall : Stamp) (span : Span) : Stamp :=
  if span ≤ longestStep then wall.later span else wall

/-- The clock after a step, unless a reading leaves its range. -/
def advance? (c : Clock) (span : Span) : Option Clock :=
  let elapsed := c.elapsed + span
  let wall := stepWall c.wall span
  if elapsed ≤ latestReading && wall.inRange then some { elapsed := elapsed, wall := wall }
  else none

end Clock

end EventAlerts.Time
