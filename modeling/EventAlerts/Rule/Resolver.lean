/-
  EventAlerts/Rule/Resolver.lean
  ==============================
  **Cached category names** — the results of reading category names, good and bad, are
  kept for a fixed time.

  A result is served while its expiry lies ahead.  When one has to be worked out, all
  expired results are dropped.  An expiry has to be a reading of the clock.  If it would be
  none, there is no answer but an `Overrun`, and the result is not kept: whatever asked for
  it stops there.
-/
import EventAlerts.Rule.Category
import EventAlerts.Time.Clock

namespace EventAlerts.Rule

open EventAlerts.Time (Span)

/-- A kept result. -/
structure CachedName where
  raw : String
  /-- The category name, or nothing for a text without one. -/
  name : Option String
  expiry : Span
  deriving Repr, DecidableEq

/-- Why there is no answer: a result would expire behind the last reading of the clock. -/
structure Overrun where
  deriving Repr, DecidableEq

/-- The cache of category names. -/
structure Resolver where
  /-- How long a result is kept. -/
  lifetime : Span
  cached : List CachedName := []
  /-- How many results were worked out. -/
  validations : Nat := 0
  deriving Repr, DecidableEq

namespace Resolver

/-- The time that results are kept unless configured otherwise: a minute. -/
def defaultLifetime : Span := 60 * Time.nanosPerSecond

/-- The kept result for a text, if it has not expired. -/
def live? (r : Resolver) (now : Span) (raw : String) : Option CachedName :=
  (r.cached.find? fun e => e.raw = raw).filter fun e => now < e.expiry

/-- Works out a result, and drops what has expired. -/
def workOut (r : Resolver) (now : Span) : Resolver :=
  { r with
    cached := r.cached.filter fun e => now < e.expiry
    validations := r.validations + 1 }

/-- Keeps the result for a text. -/
def keep (r : Resolver) (now : Span) (raw : String) : Resolver :=
  { r with
    cached := r.cached ++
      [{ raw := raw, name := categoryName? raw, expiry := now + r.lifetime }] }

/-- The category name in a text, and the cache afterwards. -/
def resolve (r : Resolver) (now : Span) (raw : String) :
    Except Overrun (Option String) × Resolver :=
  match r.live? now raw with
  | some e => (.ok e.name, r)
  | none =>
    let r := r.workOut now
    if now + r.lifetime ≤ Time.latestReading then (.ok (categoryName? raw), r.keep now raw)
    else (.error {}, r)

/-- Forgets every result. -/
def clear (r : Resolver) : Resolver := { r with cached := [] }

end Resolver

end EventAlerts.Rule
