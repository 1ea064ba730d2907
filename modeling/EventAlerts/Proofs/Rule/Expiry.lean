/-
  EventAlerts/Proofs/Rule/Expiry.lean
  ===================================
  **When names are worked out again** — a cache of category names against the history of
  what was worked out.

  A `Ledger` remembers of every text when its name was worked out and kept last, and forgets
  nothing until it is cleared.  The cache forgets: whenever it works out a name it drops all
  that has expired.  This makes no difference to what can be observed.  The invariant is
  `Ledger.Tracks`: what is kept expires as the ledger says, and whatever is fresh by the
  ledger is kept.  So a text is served from the cache exactly if it is fresh
  (`Tracks.live?_isSome_iff`), and `cache_after_events` says what the cache answers, and what
  it works out, on any way that it can take.

  A name can be kept while its lifetime ends within the range of the clock.  From then on
  there are answers for the fresh texts only, until they have expired too.
-/
import EventAlerts.Proofs.Rule.Naming
import Mathlib.Logic.Function.Basic

namespace EventAlerts.Rule

open EventAlerts.Time (Span latestReading)

/-- What can happen to a cache of category names while time goes on. -/
inductive CacheEvent
  | resolve (raw : String)
  | advance (span : Span)
  | clear
  deriving Repr, DecidableEq

/-- A cache with the reading of its clock. -/
structure TimedResolver where
  now : Span := 0
  resolver : Resolver
  deriving Repr, DecidableEq

namespace TimedResolver

def step (c : TimedResolver) : CacheEvent → TimedResolver
  | .resolve raw => { c with resolver := (c.resolver.resolve c.now raw).2 }
  | .advance span => { c with now := c.now + span }
  | .clear => { c with resolver := c.resolver.clear }

def after (c : TimedResolver) (events : List CacheEvent) : TimedResolver := events.foldl step c

end TimedResolver

/-! ### The ledger -/

/-- When names were worked out. -/
structure Ledger where
  now : Span := 0
  /-- When a text's name was worked out and kept last since the ledger was cleared. -/
  latest : String → Option Span := fun _ => none

namespace Ledger

/-- Whether the latest result for a text has not expired. -/
def Fresh (lifetime : Span) (l : Ledger) (raw : String) : Prop :=
  ∃ t, l.latest raw = some t ∧ l.now < t + lifetime

instance (lifetime : Span) (l : Ledger) (raw : String) : Decidable (l.Fresh lifetime raw) :=
  match h : l.latest raw with
  | none => .isFalse (by simp [Fresh, h])
  | some t => decidable_of_iff (l.now < t + lifetime) (by simp [Fresh, h])

/-- Whether the lifetime of a result ends within the range of the clock. -/
def Within (lifetime : Span) (l : Ledger) : Prop := l.now + lifetime ≤ latestReading

instance (lifetime : Span) (l : Ledger) : Decidable (l.Within lifetime) :=
  inferInstanceAs (Decidable (_ ≤ _))

/-- The ledger after an event.  A name is worked out if its text is not fresh, and kept if
    its lifetime allows. -/
def step (lifetime : Span) (l : Ledger) : CacheEvent → Ledger
  | .resolve raw =>
    if ¬ l.Fresh lifetime raw ∧ l.Within lifetime then
      { l with latest := Function.update l.latest raw (some l.now) }
    else l
  | .advance span => { l with now := l.now + span }
  | .clear => { l with latest := fun _ => none }

def after (lifetime : Span) (l : Ledger) (events : List CacheEvent) : Ledger :=
  events.foldl (step lifetime) l

/-- The text whose name is worked out in an event, with the time. -/
def workedOut (lifetime : Span) (l : Ledger) : CacheEvent → List (Span × String)
  | .resolve raw => if l.Fresh lifetime raw then [] else [(l.now, raw)]
  | _ => []

/-- The texts whose names are worked out on the way, with the times. -/
def allWorkedOut (lifetime : Span) (l : Ledger) : List CacheEvent → List (Span × String)
  | [] => []
  | event :: rest =>
    l.workedOut lifetime event ++ (l.step lifetime event).allWorkedOut lifetime rest

variable {lifetime : Span} {l l' : Ledger} {c : TimedResolver} {raw : String}

theorem step_of_kept (stale : ¬ l.Fresh lifetime raw) (within : l.Within lifetime) :
    l.step lifetime (.resolve raw) =
      { l with latest := Function.update l.latest raw (some l.now) } :=
  if_pos ⟨stale, within⟩

theorem step_of_fresh (fresh : l.Fresh lifetime raw) : l.step lifetime (.resolve raw) = l :=
  if_neg fun both => both.1 fresh

theorem step_of_beyond (beyond : ¬ l.Within lifetime) : l.step lifetime (.resolve raw) = l :=
  if_neg fun both => beyond both.2

/-- All that resolving a text can do to the ledger. -/
theorem step_resolve_cases (lifetime : Span) (l : Ledger) (raw : String) :
    l.step lifetime (.resolve raw) = l ∨
    (¬ l.Fresh lifetime raw ∧ l.Within lifetime ∧
      l.step lifetime (.resolve raw) =
        { l with latest := Function.update l.latest raw (some l.now) }) := by
  by_cases kept : ¬ l.Fresh lifetime raw ∧ l.Within lifetime
  · exact .inr ⟨kept.1, kept.2, step_of_kept kept.1 kept.2⟩
  · exact .inl (if_neg kept)

theorem now_step_resolve (lifetime : Span) (l : Ledger) (raw : String) :
    (l.step lifetime (.resolve raw)).now = l.now := by
  rcases l.step_resolve_cases lifetime raw with same | ⟨_, _, same⟩
  · rw [same]
  · rw [same]

theorem latest_step_of_ne {other : String} (different : other ≠ raw) :
    (l.step lifetime (.resolve raw)).latest other = l.latest other := by
  rcases l.step_resolve_cases lifetime raw with same | ⟨_, _, same⟩
  · rw [same]
  · rw [same]
    exact Function.update_of_ne different _ _

theorem latest_step_of_kept (stale : ¬ l.Fresh lifetime raw) (within : l.Within lifetime) :
    (l.step lifetime (.resolve raw)).latest raw = some l.now := by
  rw [step_of_kept stale within]
  exact Function.update_self _ _ _

theorem fresh_step_of_ne {other : String} (different : other ≠ raw) :
    (l.step lifetime (.resolve raw)).Fresh lifetime other ↔ l.Fresh lifetime other := by
  rw [Fresh, latest_step_of_ne different, now_step_resolve]
  rfl

theorem Fresh.of_advance {span : Span}
    (fresh : (l.step lifetime (.advance span)).Fresh lifetime raw) : l.Fresh lifetime raw := by
  obtain ⟨t, latest, unexpired⟩ := fresh
  exact ⟨t, latest, Nat.lt_of_le_of_lt (Nat.le_add_right l.now span) unexpired⟩

theorem now_le_step (lifetime : Span) (l : Ledger) (event : CacheEvent) :
    l.now ≤ (l.step lifetime event).now := by
  cases event with
  | resolve raw =>
    exact Nat.le_of_eq (now_step_resolve lifetime l raw).symm
  | advance span => exact Nat.le_add_right l.now span
  | clear => exact Nat.le_refl _

theorem now_le_after (lifetime : Span) (l : Ledger) (events : List CacheEvent) :
    l.now ≤ (l.after lifetime events).now := by
  induction events generalizing l with
  | nil => exact Nat.le_refl _
  | cons event rest ih => exact Nat.le_trans (l.now_le_step lifetime event) (ih _)

theorem Within.of_le (earlier : l.now ≤ l'.now) (within : l'.Within lifetime) :
    l.Within lifetime :=
  Nat.le_trans (Nat.add_le_add_right earlier lifetime) within

/-- Once there is no answer for a text, there is none any more. -/
theorem stale_after (stale : ¬ l.Fresh lifetime raw) (beyond : ¬ l.Within lifetime)
    (later : List CacheEvent) :
    ¬ (l.after lifetime later).Fresh lifetime raw ∧ ¬ (l.after lifetime later).Within lifetime := by
  induction later generalizing l with
  | nil => exact ⟨stale, beyond⟩
  | cons event rest ih =>
    refine ih (l := l.step lifetime event) ?_ fun within =>
      beyond (within.of_le (l.now_le_step lifetime event))
    cases event with
    | resolve other =>
      rw [step_of_beyond beyond]
      exact stale
    | advance span => exact fun fresh => stale fresh.of_advance
    | clear =>
      rintro ⟨t, latest, _⟩
      cases latest

/-- Until it expires, a result stays the latest one, unless the ledger is cleared. -/
theorem latest_after {t : Span} (latest : l.latest raw = some t) {later : List CacheEvent}
    (uncleared : .clear ∉ later) (unexpired : (l.after lifetime later).now < t + lifetime) :
    (l.after lifetime later).latest raw = some t := by
  induction later generalizing l with
  | nil => exact latest
  | cons event rest ih =>
    obtain ⟨first, others⟩ := not_or.mp (mt List.mem_cons.mpr uncleared)
    -- time only goes on, so the result has not expired yet
    have fresh : l.Fresh lifetime raw :=
      ⟨t, latest, Nat.lt_of_le_of_lt (l.now_le_after lifetime (event :: rest)) unexpired⟩
    refine ih (l := l.step lifetime event) ?_ others unexpired
    cases event with
    | clear => exact absurd rfl first
    | advance span => exact latest
    | resolve other =>
      by_cases same : raw = other
      · rw [← same, step_of_fresh fresh]
        exact latest
      · rw [latest_step_of_ne same]
        exact latest

/-! ### The invariant -/

/-- What a ledger and a cache that went through the same events have to do with each other. -/
structure Tracks (lifetime : Span) (l : Ledger) (c : TimedResolver) : Prop where
  now : c.now = l.now
  same : c.resolver.lifetime = lifetime
  faithful : c.resolver.Faithful
  distinct : (c.resolver.cached.map CachedName.raw).Nodup
  /-- What is kept is the latest result for its text, and expires accordingly. -/
  dated : ∀ e ∈ c.resolver.cached, ∃ t, l.latest e.raw = some t ∧ e.expiry = t + lifetime
  kept : ∀ s, l.Fresh lifetime s → ∃ e ∈ c.resolver.cached, e.raw = s

namespace Tracks

theorem start (lifetime : Span) : Tracks lifetime {} { resolver := { lifetime := lifetime } } where
  now := rfl
  same := rfl
  faithful := Resolver.faithful_nil rfl
  distinct := List.nodup_nil
  dated := by
    intro e member
    cases member
  kept := by
    rintro s ⟨t, latest, _⟩
    cases latest

theorem fresh_of_mem (tracks : Tracks lifetime l c) {e : CachedName}
    (member : e ∈ c.resolver.cached) (unexpired : c.now < e.expiry) :
    l.Fresh lifetime e.raw := by
  obtain ⟨t, latest, expiry⟩ := tracks.dated e member
  rw [expiry, tracks.now] at unexpired
  exact ⟨t, latest, unexpired⟩

theorem unexpired_of_fresh (tracks : Tracks lifetime l c) {e : CachedName}
    (member : e ∈ c.resolver.cached) (fresh : l.Fresh lifetime e.raw) : c.now < e.expiry := by
  obtain ⟨t, latest, expiry⟩ := tracks.dated e member
  obtain ⟨t', latest', unexpired⟩ := fresh
  have same : t = t' := Option.some.inj (latest.symm.trans latest')
  rw [expiry, same, tracks.now]
  exact unexpired

/-- A text is served from the cache exactly if it is fresh. -/
theorem live?_isSome_iff (tracks : Tracks lifetime l c) (raw : String) :
    (c.resolver.live? c.now raw).isSome ↔ l.Fresh lifetime raw := by
  rw [Option.isSome_iff_exists]
  constructor
  · rintro ⟨e, found⟩
    obtain ⟨member, rfl, unexpired⟩ := Resolver.live?_eq_some found
    exact tracks.fresh_of_mem member unexpired
  · intro fresh
    obtain ⟨first, found⟩ : ∃ first,
        c.resolver.cached.find? (fun e => e.raw = raw) = some first := by
      obtain ⟨e, member, named⟩ := tracks.kept raw fresh
      rw [← Option.isSome_iff_exists, List.find?_isSome]
      exact ⟨e, member, decide_eq_true named⟩
    have named := List.find?_some found
    have same : first.raw = raw := of_decide_eq_true named
    have unexpired := tracks.unexpired_of_fresh (List.mem_of_find?_eq_some found) (same ▸ fresh)
    refine ⟨first, ?_⟩
    rw [Resolver.live?, found, Option.filter_some, if_pos (decide_eq_true unexpired)]

theorem live?_of_stale (tracks : Tracks lifetime l c) (stale : ¬ l.Fresh lifetime raw) :
    c.resolver.live? c.now raw = none := by
  rw [← Option.not_isSome_iff_eq_none, tracks.live?_isSome_iff]
  exact stale

theorem within_iff (tracks : Tracks lifetime l c) :
    c.now + c.resolver.lifetime ≤ latestReading ↔ l.Within lifetime := by
  rw [tracks.now, tracks.same]
  rfl

theorem answers_iff (tracks : Tracks lifetime l c) (raw : String) :
    c.resolver.Answers c.now raw ↔ l.Fresh lifetime raw ∨ l.Within lifetime :=
  or_congr (tracks.live?_isSome_iff raw) tracks.within_iff

theorem resolve_of_fresh (tracks : Tracks lifetime l c) (fresh : l.Fresh lifetime raw) :
    (c.resolver.resolve c.now raw).2 = c.resolver := by
  have live := (tracks.live?_isSome_iff raw).mpr fresh
  rcases c.resolver.resolve_cases c.now raw with ⟨e, _, same⟩ | ⟨missing, _⟩ | ⟨none, _⟩
  · rw [same]
  · rw [missing] at live
    cases live
  · exact absurd (.inl live) none

theorem resolve_of_kept (tracks : Tracks lifetime l c) (stale : ¬ l.Fresh lifetime raw)
    (within : l.Within lifetime) :
    (c.resolver.resolve c.now raw).2 = (c.resolver.workOut c.now).keep c.now raw := by
  rcases c.resolver.resolve_cases c.now raw with ⟨e, found, _⟩ | ⟨_, _, same⟩ | ⟨none, _⟩
  · rw [tracks.live?_of_stale stale] at found
    cases found
  · rw [same]
  · exact absurd ((tracks.answers_iff raw).mpr (.inr within)) none

theorem resolve_of_beyond (tracks : Tracks lifetime l c) (stale : ¬ l.Fresh lifetime raw)
    (beyond : ¬ l.Within lifetime) :
    (c.resolver.resolve c.now raw).2 = c.resolver.workOut c.now := by
  rw [Resolver.resolve_of_beyond (mt tracks.within_iff.mp beyond), if_neg]
  rw [tracks.answers_iff]
  exact not_or.mpr ⟨stale, beyond⟩

/-- A text's name is served exactly if it is fresh or can be kept. -/
theorem resolve_fst (tracks : Tracks lifetime l c) (raw : String) :
    (c.resolver.resolve c.now raw).1 =
      if l.Fresh lifetime raw ∨ l.Within lifetime then .ok (categoryName? raw)
      else .error {} := by
  cases answered : (c.resolver.resolve c.now raw).1 with
  | error e =>
    rw [if_neg]
    rw [← tracks.answers_iff, ← Resolver.resolve_ok_iff, answered]
    exact fun ⟨_, served⟩ => nomatch served
  | ok name =>
    rw [if_pos ((tracks.answers_iff raw).mp (Resolver.resolve_ok_iff.mp ⟨name, answered⟩)),
      tracks.faithful.name_of_ok answered]

/-! ### Working out a name -/

/-- Working out a name leaves what has not expired. -/
theorem mem_workOut_iff (tracks : Tracks lifetime l c) {e : CachedName} :
    e ∈ (c.resolver.workOut c.now).cached ↔ e ∈ c.resolver.cached ∧ l.Fresh lifetime e.raw := by
  refine List.mem_filter.trans (and_congr_right fun member => ?_)
  rw [decide_eq_true_iff]
  exact ⟨tracks.fresh_of_mem member, tracks.unexpired_of_fresh member⟩

theorem nodup_workOut (tracks : Tracks lifetime l c) :
    ((c.resolver.workOut c.now).cached.map CachedName.raw).Nodup :=
  tracks.distinct.sublist (List.filter_sublist.map _)

theorem workOut (tracks : Tracks lifetime l c) :
    Tracks lifetime l { c with resolver := c.resolver.workOut c.now } where
  now := tracks.now
  same := tracks.same
  faithful := tracks.faithful.workOut c.now
  distinct := tracks.nodup_workOut
  dated e member := tracks.dated e (tracks.mem_workOut_iff.mp member).1
  kept := by
    intro s fresh
    obtain ⟨e, member, rfl⟩ := tracks.kept s fresh
    exact ⟨e, tracks.mem_workOut_iff.mpr ⟨member, fresh⟩, rfl⟩

theorem mem_keep_iff (tracks : Tracks lifetime l c) {e : CachedName} :
    e ∈ ((c.resolver.workOut c.now).keep c.now raw).cached ↔
      (e ∈ c.resolver.cached ∧ l.Fresh lifetime e.raw) ∨
        e = { raw := raw, name := categoryName? raw, expiry := l.now + lifetime } := by
  rw [← tracks.mem_workOut_iff, ← tracks.now, ← tracks.same]
  exact List.mem_append.trans (or_congr_right List.mem_singleton)

theorem keep (tracks : Tracks lifetime l c) (stale : ¬ l.Fresh lifetime raw)
    (within : l.Within lifetime) :
    Tracks lifetime (l.step lifetime (.resolve raw))
      { c with resolver := (c.resolver.workOut c.now).keep c.now raw } where
  now := tracks.now.trans (now_step_resolve lifetime l raw).symm
  same := tracks.same
  faithful := (tracks.faithful.workOut c.now).keep c.now raw
  distinct := by
    simp only [Resolver.keep, List.map_append, List.map_singleton]
    refine List.nodup_append.mpr ⟨tracks.nodup_workOut, List.nodup_singleton _, ?_⟩
    intro s old s' new
    obtain ⟨e, member, rfl⟩ := List.mem_map.mp old
    rw [List.mem_singleton.mp new]
    rintro rfl
    exact stale (tracks.mem_workOut_iff.mp member).2
  dated := by
    intro e member
    rcases tracks.mem_keep_iff.mp member with ⟨old, fresh⟩ | rfl
    · have different : e.raw ≠ raw := fun same => stale (same ▸ fresh)
      rw [latest_step_of_ne different]
      exact tracks.dated e old
    · exact ⟨l.now, latest_step_of_kept stale within, rfl⟩
  kept := by
    intro s still
    by_cases same : s = raw
    · exact ⟨_, tracks.mem_keep_iff.mpr (.inr rfl), same.symm⟩
    · have before := (fresh_step_of_ne same).mp still
      obtain ⟨e, member, rfl⟩ := tracks.kept s before
      exact ⟨e, tracks.mem_keep_iff.mpr (.inl ⟨member, before⟩), rfl⟩

theorem resolve (tracks : Tracks lifetime l c) (raw : String) :
    Tracks lifetime (l.step lifetime (.resolve raw)) (c.step (.resolve raw)) := by
  rw [TimedResolver.step]
  by_cases fresh : l.Fresh lifetime raw
  · rw [tracks.resolve_of_fresh fresh, step_of_fresh fresh]
    exact tracks
  · by_cases within : l.Within lifetime
    · rw [tracks.resolve_of_kept fresh within]
      exact tracks.keep fresh within
    · rw [tracks.resolve_of_beyond fresh within, step_of_beyond within]
      exact tracks.workOut

/-- After a name was worked out, nothing is left in the cache that has expired, but for the
    new result if its lifetime is zero. -/
theorem mem_cached_of_stale (tracks : Tracks lifetime l c) (stale : ¬ l.Fresh lifetime raw)
    {s : String} :
    s ∈ (c.resolver.resolve c.now raw).2.cached.map CachedName.raw ↔
      (s = raw ∧ l.Within lifetime) ∨ (l.step lifetime (.resolve raw)).Fresh lifetime s := by
  have next := tracks.resolve raw
  constructor
  · intro member
    obtain ⟨e, there, rfl⟩ := List.mem_map.mp member
    by_cases within : l.Within lifetime
    · rw [tracks.resolve_of_kept stale within] at there
      rcases tracks.mem_keep_iff.mp there with ⟨_, fresh⟩ | rfl
      · have different : e.raw ≠ raw := fun same => stale (same ▸ fresh)
        exact .inr ((fresh_step_of_ne different).mpr fresh)
      · exact .inl ⟨rfl, within⟩
    · rw [tracks.resolve_of_beyond stale within] at there
      rw [step_of_beyond within]
      exact .inr (tracks.mem_workOut_iff.mp there).2
  · rintro (⟨rfl, within⟩ | fresh)
    · rw [tracks.resolve_of_kept stale within]
      exact List.mem_map_of_mem (tracks.mem_keep_iff.mpr (.inr rfl))
    · obtain ⟨e, member, rfl⟩ := next.kept s fresh
      exact List.mem_map_of_mem member

theorem step (tracks : Tracks lifetime l c) (event : CacheEvent) :
    Tracks lifetime (l.step lifetime event) (c.step event) := by
  cases event with
  | resolve raw => exact tracks.resolve raw
  | advance span =>
    exact { tracks with
      now := congrArg (· + span) tracks.now
      kept := fun s fresh => tracks.kept s fresh.of_advance }
  | clear =>
    exact {
      now := tracks.now
      same := tracks.same
      faithful := Resolver.faithful_nil rfl
      distinct := List.nodup_nil
      dated := by
        intro e member
        cases member
      kept := by
        rintro s ⟨t, latest, _⟩
        cases latest }

theorem after (tracks : Tracks lifetime l c) (events : List CacheEvent) :
    Tracks lifetime (l.after lifetime events) (c.after events) := by
  induction events generalizing l c with
  | nil => exact tracks
  | cons event rest ih => exact ih (tracks.step event)

/-! ### What the cache works out -/

theorem validations_step (tracks : Tracks lifetime l c) (event : CacheEvent) :
    (c.step event).resolver.validations =
      c.resolver.validations + (l.workedOut lifetime event).length := by
  cases event with
  | resolve raw =>
    rw [TimedResolver.step, workedOut]
    by_cases fresh : l.Fresh lifetime raw
    · rw [tracks.resolve_of_fresh fresh, if_pos fresh]
      rfl
    · rw [if_neg fresh]
      by_cases within : l.Within lifetime
      · rw [tracks.resolve_of_kept fresh within]
        rfl
      · rw [tracks.resolve_of_beyond fresh within]
        rfl
  | advance span => rfl
  | clear => rfl

theorem validations_after (tracks : Tracks lifetime l c) (events : List CacheEvent) :
    (c.after events).resolver.validations =
      c.resolver.validations + (l.allWorkedOut lifetime events).length := by
  induction events generalizing l c with
  | nil => rfl
  | cons event rest ih =>
    have later := ih (tracks.step event)
    rw [tracks.validations_step, Nat.add_assoc, ← List.length_append] at later
    exact later

end Tracks

/-- A cache of category names on any way that it can take, with any lifetime of results.

    Resolving a text gives the name that is in it, if the text is fresh or if the lifetime of a
    new result ends within the range of the clock.  Otherwise there is no answer, and then
    there is none for this text any more, whatever happens later.

    The name is worked out exactly if the text is not fresh, that is, if its name was not
    worked out and kept since the cache was cleared, or if the lifetime of the latest result
    has passed.  Whenever a name is worked out, the cache holds the results for this text, if
    there is an answer, and for those that are fresh, each once and with the expiry of the
    latest result; and the text then stays fresh until its lifetime has passed, unless the
    cache is cleared.  The number of names that were worked out is that of the ledger. -/
theorem cache_after_events (lifetime : Span) (events : List CacheEvent) (raw : String) :
    let l := Ledger.after lifetime {} events
    let c := TimedResolver.after { resolver := { lifetime := lifetime } } events
    let served := c.resolver.resolve c.now raw
    let l' := l.step lifetime (.resolve raw)
    c.now = l.now ∧
    served.1 =
      (if l.Fresh lifetime raw ∨ l.now + lifetime ≤ latestReading then .ok (categoryName? raw)
        else .error {}) ∧
    (served.1 = .error {} → ∀ later,
      let c' := (c.step (.resolve raw)).after later
      (c'.resolver.resolve c'.now raw).1 = .error {}) ∧
    served.2.validations =
      c.resolver.validations + (if l.Fresh lifetime raw then 0 else 1) ∧
    c.resolver.validations = (Ledger.allWorkedOut lifetime {} events).length ∧
    (¬ l.Fresh lifetime raw →
      (served.2.cached.map CachedName.raw).Nodup ∧
      (∀ s, s ∈ served.2.cached.map CachedName.raw ↔
        (s = raw ∧ l.now + lifetime ≤ latestReading) ∨ l'.Fresh lifetime s) ∧
      (∀ e ∈ served.2.cached, e.name = categoryName? e.raw ∧
        ∃ t, l'.latest e.raw = some t ∧ e.expiry = t + lifetime) ∧
      (l.now + lifetime ≤ latestReading →
        ∀ later, .clear ∉ later →
          (l'.after lifetime later).now < l.now + lifetime →
          (l'.after lifetime later).Fresh lifetime raw)) := by
  intro l c served l'
  have start := Tracks.start lifetime
  have tracks : Tracks lifetime l c := start.after events
  have next : Tracks lifetime l' (c.step (.resolve raw)) := tracks.step (.resolve raw)
  have answer := tracks.resolve_fst raw
  refine ⟨tracks.now, answer, ?never, ?count, ?counted, ?kept⟩
  case never =>
    intro failed later c'
    have none : ¬ (l.Fresh lifetime raw ∨ l.Within lifetime) := by
      intro answered
      rw [if_pos answered] at answer
      exact nomatch failed.symm.trans answer
    obtain ⟨stale, beyond⟩ := not_or.mp none
    -- nothing was kept, so the text is as stale as before, and time only goes on
    have still : l' = l := step_of_beyond beyond
    rw [still] at next
    rw [(next.after later).resolve_fst raw]
    exact if_neg (not_or.mpr (stale_after stale beyond later))
  case count =>
    have one := tracks.validations_step (.resolve raw)
    rw [workedOut] at one
    split at one <;> rename_i fresh
    · rw [if_pos fresh]
      exact one
    · rw [if_neg fresh]
      exact one
  case counted => exact (start.validations_after events).trans (Nat.zero_add _)
  case kept =>
    intro stale
    refine ⟨next.distinct, fun s => tracks.mem_cached_of_stale stale,
      fun e member => ⟨next.faithful e member, next.dated e member⟩, ?_⟩
    intro within later uncleared unexpired
    exact ⟨l.now, latest_after (latest_step_of_kept stale within) uncleared unexpired, unexpired⟩

/-- With the longest lifetime there is no answer for a text, not even on the first reading of
    the clock. -/
theorem no_answer_by_lifetime :
    (Resolver.resolve { lifetime := 18446744073709551615 * Time.nanosPerSecond } 0 "JoinEvent").1 =
      .error {} ∧
    categoryName? "JoinEvent" = some "JoinEvent" := by
  decide +kernel

/-- At the expiry itself a result is not served any more, and one without a name is kept like
    any other. -/
example :
    (TimedResolver.after { resolver := { lifetime := 5 } }
      [.resolve "a", .resolve "!", .advance 4, .resolve "a", .resolve "!", .advance 1,
        .resolve "a"]).resolver =
      { lifetime := 5, cached := [{ raw := "a", name := some "a", expiry := 10 }]
        validations := 3 } := by
  decide +kernel

end Ledger

end EventAlerts.Rule
