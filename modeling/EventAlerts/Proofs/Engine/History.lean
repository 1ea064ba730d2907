/-
  EventAlerts/Proofs/Engine/History.lean
  ======================================
  **Everything that an engine goes through** — the events of a journal, and occurrences
  that are handed to the engine directly.

  Most of what happens leaves the work alone that is under way (`Engine.Undisturbed`) or the
  rules (`Engine.SameFixtures`), and nothing does more to the cache of category names than
  to resolve texts and to clear it.  So a journal stays `Sound` on any way from its start:
  the accounts are kept, and the cache is faithful and has the lifetime of the settings.
-/
import EventAlerts.Proofs.Engine.Answering
import EventAlerts.Proofs.Engine.Journal

namespace EventAlerts

open EventAlerts.Rule (Resolver Trigger)
open EventAlerts.Time (Span Stamp latestReading)

/-- What an engine can go through. -/
inductive Happening
  | event (event : EngineEvent)
  /-- The engine takes up an occurrence that does not come through its host. -/
  | dispatch (o : Occurrence)

namespace Engine

/-! ### What leaves the work alone -/

/-- Engines with the same work under way, and with the same to do it with. -/
structure Undisturbed (e e' : Engine) : Prop where
  environment : e'.environment = e.environment
  clock : e'.clock = e.clock
  outbox : e'.outbox = e.outbox
  dispatches : e'.dispatches = e.dispatches
  tasks : e'.tasks = e.tasks

theorem reload_eq (e : Engine) :
    ∃ store subscription host, e.reload.2 =
      { e with
        resolver := e.resolver.clear, store := store, subscription := subscription
        host := host } := by
  cases loaded : e.source.load with
  | error err => exact ⟨e.store, e.subscription, e.host, by simp only [reload, loaded]⟩
  | ok rules =>
    simp only [reload, loaded]
    split <;> exact ⟨_, _, _, rfl⟩

theorem undisturbed_reload (e : Engine) : e.Undisturbed e.reload.2 := by
  obtain ⟨store, subscription, host, same⟩ := e.reload_eq
  rw [same]
  exact ⟨rfl, rfl, rfl, rfl, rfl⟩

/-! ### What leaves the rules alone -/

theorem reaches_reload (e : Engine) : Resolver.Reaches e.resolver e.reload.2.resolver := by
  obtain ⟨store, subscription, host, same⟩ := e.reload_eq
  rw [same]
  exact Resolver.Reaches.step e.resolver .clear

/-- Engines with the same rules and source and the same time, and with caches that come from
    each other. -/
structure SameFixtures (e e' : Engine) : Prop where
  source : e'.source = e.source
  store : e'.store = e.store
  clock : e'.clock = e.clock
  reaches : Resolver.Reaches e.resolver e'.resolver

theorem setCancelled_eq (e : Engine) (number : Nat) (value : Bool) :
    ∃ dispatches, (e.setCancelled number value).2 = { e with dispatches := dispatches } := by
  unfold setCancelled
  cases e.dispatches[number]? with
  | none => exact ⟨e.dispatches, rfl⟩
  | some d => exact ⟨_, rfl⟩

theorem sameFixtures_setCancelled (e : Engine) (number : Nat) (value : Bool) :
    SameFixtures e (e.setCancelled number value).2 := by
  obtain ⟨_, same⟩ := e.setCancelled_eq number value
  rw [same]
  exact ⟨rfl, rfl, rfl, Resolver.Reaches.refl _⟩

theorem sameFixtures_takeAt (e : Engine) (place : Nat) : SameFixtures e (e.takeAt place) := by
  obtain ⟨_, _, _, same⟩ := e.takeAt_eq place
  rw [same]
  exact ⟨rfl, rfl, rfl, Resolver.Reaches.refl _⟩

theorem sameFixtures_fire {e : Engine} (f : Following e.host e.subscription) (category : String)
    (o : Occurrence) : SameFixtures e (e.fire category o).2 := by
  rcases fire_cases f category o with fired | fired
  · rw [fired]
    exact ⟨rfl, rfl, rfl, reaches_dispatchRules _ _ _ _ _ _⟩
  · rw [fired]
    exact ⟨rfl, rfl, rfl, Resolver.Reaches.refl _⟩

end Engine

namespace Journal

/-- The journal after something has happened. -/
def next (j : Journal) : Happening → Journal
  | .event event => j.step event
  | .dispatch o => { j with engine := (j.engine.dispatch o).2 }

def through (j : Journal) (happenings : List Happening) : Journal := happenings.foldl next j

theorem through_append (j : Journal) (happenings later : List Happening) :
    j.through (happenings ++ later) = (j.through happenings).through later :=
  List.foldl_append

theorem through_events (j : Journal) (events : List EngineEvent) :
    j.through (events.map .event) = j.after events := by
  rw [through, List.foldl_map]
  rfl

variable {kind : Observation} {j : Journal}

theorem Kept.next (k : Kept kind j) (h : Happening) : Kept kind (j.next h) := by
  cases h with
  | event event => exact k.step event
  | dispatch o => exact k.dispatch o

theorem Kept.fixtures_next (k : Kept kind j) {h : Happening}
    (source : ∀ new, h ≠ .event (.source new)) (reload : h ≠ .event .reload)
    (clock : ∀ new, h ≠ .event (.clock new)) :
    Engine.SameFixtures j.engine (j.next h).engine := by
  cases h with
  | dispatch o => exact ⟨rfl, rfl, rfl, reaches_dispatchRules _ _ _ _ _ _⟩
  | event event =>
    cases event with
    | source new => exact absurd rfl (source new)
    | reload => exact absurd rfl reload
    | clock new => exact absurd rfl (clock new)
    | fire category o => exact Engine.sameFixtures_fire k.following category o
    | setCancelled number value => exact j.engine.sameFixtures_setCancelled number value
    | take place => exact j.engine.sameFixtures_takeAt place
    | _ => exact ⟨rfl, rfl, rfl, Resolver.Reaches.refl _⟩

theorem Kept.reaches_next (k : Kept kind j) (h : Happening) :
    Resolver.Reaches j.engine.resolver (j.next h).engine.resolver := by
  cases h with
  | dispatch o => exact reaches_dispatchRules _ _ _ _ _ _
  | event event =>
    cases event with
    | source new => exact Resolver.Reaches.refl _
    | reload => exact j.engine.reaches_reload
    | clock new => exact Resolver.Reaches.refl _
    | _ => exact (k.fixtures_next (by simp) (by simp) (by simp)).reaches

/-- Dispatches keep their places and the number of their rules, and what has cut one short. -/
theorem Kept.records_next (k : Kept kind j) (h : Happening) :
    j.engine.sizes <+: (j.next h).engine.sizes ∧ j.engine.cuts <+: (j.next h).engine.cuts := by
  cases h with
  | event event =>
    obtain ⟨sizes, cuts, _⟩ := k.records_step event
    exact ⟨sizes, cuts⟩
  | dispatch o =>
    simp only [Journal.next, Engine.dispatch, Engine.sizes, Engine.cuts, List.map_append]
    exact ⟨List.prefix_append _ _, List.prefix_append _ _⟩

theorem Kept.records_through (k : Kept kind j) (happenings : List Happening) :
    j.engine.sizes <+: (j.through happenings).engine.sizes ∧
      j.engine.cuts <+: (j.through happenings).engine.cuts := by
  induction happenings generalizing j with
  | nil => exact ⟨List.prefix_rfl, List.prefix_rfl⟩
  | cons h rest ih =>
    obtain ⟨sizes, cuts⟩ := k.records_next h
    obtain ⟨laterSizes, laterCuts⟩ := ih (k.next h)
    exact ⟨sizes.trans laterSizes, cuts.trans laterCuts⟩

/-- What holds of a journal that has begun at a start, with a cache of this lifetime. -/
structure Sound (kind : Observation) (lifetime : Span) (j : Journal) : Prop where
  kept : Kept kind j
  faithful : j.engine.resolver.Faithful
  lifetime : j.engine.resolver.lifetime = lifetime

theorem sound_start (settings : EngineSettings) (environment : Environment) (kind : Observation)
    (directory : Directory) (now : Stamp) :
    Sound kind settings.categoryLifetime (start settings environment kind directory now) where
  kept := kept_start settings environment kind directory now
  faithful := Resolver.faithful_nil rfl
  lifetime := rfl

namespace Sound

variable {lifetime : Span}

theorem next (s : Sound kind lifetime j) (h : Happening) : Sound kind lifetime (j.next h) where
  kept := s.kept.next h
  faithful := (s.kept.reaches_next h).faithful s.faithful
  lifetime := (s.kept.reaches_next h).lifetime.trans s.lifetime

theorem through (s : Sound kind lifetime j) (happenings : List Happening) :
    Sound kind lifetime (j.through happenings) := by
  induction happenings generalizing j with
  | nil => exact s
  | cons h rest ih => exact ih (s.next h)

/-- Other rules may be in force. -/
theorem withStore (s : Sound kind lifetime j) (store : AlertStore) :
    Sound kind lifetime { j with engine := { j.engine with store := store } } where
  kept := { s.kept with }
  faithful := s.faithful
  lifetime := s.lifetime

end Sound

end Journal

end EventAlerts
