/-
  EventAlerts/Proofs/Engine/Overrun.lean
  ======================================
  **Lifetimes beyond the clock** — when keeping a category name ends the program.

  A file can set the lifetime of category names to any span whose seconds have 64 bits, and the
  seconds of the clock have 63.  An expiry is computed whenever a name is worked out, and at no
  other time: `Spends` says this of what is done to an engine at one reading, and so a dispatch is
  cut short exactly at a happening that `RunsOver`.  A lifetime is safe up to
  a reading of the clock exactly if it ends within the range from there (`overrun_by_lifetime`).
-/
import EventAlerts.Program.Replay
import EventAlerts.Proofs.Engine.Reloading
import EventAlerts.Proofs.Rule.Lifetimes

namespace EventAlerts

open EventAlerts.Rule (Resolver Trigger)
open EventAlerts.Time (Span Stamp latestReading maxWord nanosPerSecond)

namespace Engine

variable {e e' : Engine}

/-! ### Expiries at one reading -/

/-- What is done to an engine at a reading of the clock, as far as expiries go: a dispatch has
    been cut short exactly if a category name was worked out, and its lifetime ends beyond the
    range of the clock. -/
def Spends (e e' : Engine) : Prop :=
  true ∈ e'.cuts ↔
    true ∈ e.cuts ∨ e.resolver.validations < e'.resolver.validations ∧
      latestReading < e.clock.elapsed + e.resolver.lifetime

theorem spends_of_same (cuts : e'.cuts = e.cuts) (resolver : e'.resolver = e.resolver) :
    Spends e e' := by
  simp [Spends, cuts, resolver]

theorem cuts_dispatch (e : Engine) (o : Occurrence) :
    (e.dispatch o).2.cuts = e.cuts ++ [(dispatchRules e.surroundings o
      (OccurrenceContext.ofOccurrence o) e.clock.elapsed e.resolver e.store.rules).cut] := by
  simp only [Engine.cuts, dispatch, List.map_append, List.map_cons, List.map_nil]

theorem spends_dispatch (e : Engine) (o : Occurrence) : Spends e (e.dispatch o).2 := by
  let d := dispatchRules e.surroundings o (OccurrenceContext.ofOccurrence o) e.clock.elapsed
    e.resolver e.store.rules
  have cuts : (e.dispatch o).2.cuts = e.cuts ++ [d.cut] := e.cuts_dispatch o
  have late : d.cut = true ↔ e.resolver.validations < d.resolver.validations ∧
      latestReading < e.clock.elapsed + e.resolver.lifetime := by
    by_cases within : e.clock.elapsed + e.resolver.lifetime ≤ latestReading
    · have uncut : d.cut = false := cut_of_within _ _ _ _ within _
      rw [uncut]
      exact iff_of_false Bool.false_ne_true fun both => Nat.not_lt_of_le within both.2
    · have resolver : d.resolver = if d.cut then _ else _ := resolver_of_beyond _ _ _ _ within _
      rw [and_iff_left (Nat.not_le.mp within), resolver]
      cases d.cut with
      | false => exact iff_of_false Bool.false_ne_true (Nat.lt_irrefl _)
      | true => exact iff_of_true rfl (Nat.lt_succ_self _)
  rw [Spends, cuts, List.mem_append, List.mem_singleton, eq_comm (a := true), late]
  rfl

theorem spends_fire (f : Following e.host e.subscription) (category : String) (o : Occurrence) :
    Spends e (e.fire category o).2 := by
  rcases fire_cases f category o with fired | fired
  · rw [fired]
    exact spends_dispatch { e with host := e.hostAfterUse category } o
  · rw [fired]
    exact spends_of_same rfl rfl

theorem spends_reload (e : Engine) : Spends e e.reload.2 := by
  obtain ⟨store, subscription, host, same⟩ := e.reload_eq
  rw [same]
  simp [Spends, Engine.cuts, Resolver.clear]

theorem resolver_setCancelled (e : Engine) (number : Nat) (value : Bool) :
    (e.setCancelled number value).2.resolver = e.resolver := by
  obtain ⟨_, same⟩ := e.setCancelled_eq number value
  rw [same]

theorem resolver_takeAt (e : Engine) (place : Nat) : (e.takeAt place).resolver = e.resolver := by
  obtain ⟨_, _, _, same⟩ := e.takeAt_eq place
  rw [same]

end Engine

/-! ### Expiries of a whole run -/

namespace Journal

variable {kind : Observation} {lifetime latest : Span} {j : Journal}

/-- No dispatch is cut short later. -/
theorem Kept.cuts_step (k : Kept kind j) {event : EngineEvent}
    (unhanded : j.engine.handedDuring event = []) :
    (j.step event).engine.cuts = j.engine.cuts := by
  obtain ⟨_, cuts, bases⟩ := k.records_step event
  refine (cuts.eq_of_length ?_).symm
  have lengths := congrArg List.length bases
  rw [unhanded] at lengths
  simpa [Engine.cuts, Engine.bases] using lengths.symm

theorem Kept.spends_next (k : Kept kind j) (h : Happening) :
    Engine.Spends j.engine (j.next h).engine := by
  cases h with
  | dispatch o => exact j.engine.spends_dispatch o
  | event event =>
    cases event with
    | reload => exact j.engine.spends_reload
    | fire category o => exact Engine.spends_fire k.following category o
    | setCancelled number value =>
      exact Engine.spends_of_same (k.cuts_step rfl) (j.engine.resolver_setCancelled number value)
    | take place => exact Engine.spends_of_same (k.cuts_step rfl) (j.engine.resolver_takeAt place)
    | _ => exact Engine.spends_of_same rfl rfl

/-- Whether a category name is worked out whose expiry is no reading of the clock. -/
def RunsOver (lifetime : Span) (j : Journal) (h : Happening) : Prop :=
  j.engine.resolver.validations < (j.next h).engine.resolver.validations ∧
    latestReading < j.engine.clock.elapsed + lifetime

theorem Sound.cut_next_iff (s : Sound kind lifetime j) (h : Happening) :
    true ∈ (j.next h).engine.cuts ↔ true ∈ j.engine.cuts ∨ j.RunsOver lifetime h := by
  have spends := s.kept.spends_next h
  rw [Engine.Spends, s.lifetime] at spends
  exact spends

theorem Sound.cut_through_iff (s : Sound kind lifetime j) (happenings : List Happening) :
    true ∈ (j.through happenings).engine.cuts ↔
      true ∈ j.engine.cuts ∨
        ∃ before h after, happenings = before ++ h :: after ∧
          (j.through before).RunsOver lifetime h := by
  induction happenings generalizing j with
  | nil => exact (or_iff_left (by simp)).symm
  | cons first rest ih =>
    have later := (ih (s.next first)).trans (or_congr_left (s.cut_next_iff first))
    refine later.trans (or_assoc.trans (or_congr_right ?_))
    constructor
    · rintro (here | ⟨before, h, after, rfl, there⟩)
      · exact ⟨[], first, rest, rfl, here⟩
      · exact ⟨first :: before, h, after, rfl, there⟩
    · rintro ⟨before, h, after, same, runs⟩
      cases before with
      | nil =>
        cases same
        exact .inl runs
      | cons other before =>
        cases same
        exact .inr ⟨before, h, after, rfl, runs⟩

/-- The way to a category name that is worked out at a reading of the clock. -/
def wayTo (reading : Span) : List Happening :=
  [.event (.source (.fixed [{ triggers := [.category "a"] }])), .event .reload,
    .event (.clock { elapsed := reading })]

theorem runsOver_wayTo (settings : EngineSettings) (environment : Environment)
    (kind : Observation) (directory : Directory) (now : Stamp)
    (beyond : latestReading < latest + settings.categoryLifetime) :
    ((start settings environment kind directory now).through (wayTo latest)).RunsOver
      settings.categoryLifetime (.dispatch { category := "a" }) := by
  let j := (start settings environment kind directory now).through (wayTo latest)
  have s : Sound kind settings.categoryLifetime j := (sound_start ..).through _
  let rules : List AlertRule := [{ triggers := [.category "a"] }]
  -- the reload has left an empty cache, so there is no result that could be served
  have unreached : reachedRules j.engine.resolver latest rules ≠ rules := by
    have none : ¬ j.engine.resolver.AnswersAll latest [.category "a"] := by
      rw [Resolver.answersAll_category]
      rintro (live | within)
      · cases live
      · exact Nat.not_le_of_lt beyond within
    rw [reachedRules_cons_of_none none]
    exact (List.cons_ne_nil _ _).symm
  have cut := (cut_dispatchRules j.engine.surroundings { category := "a" }
    (OccurrenceContext.ofOccurrence { category := "a" }) latest j.engine.resolver rules).not.mpr
      unreached
  have ended : true ∈ (j.next (.dispatch { category := "a" })).engine.cuts := by
    refine (j.engine.cuts_dispatch { category := "a" }).symm ▸ List.mem_append_right _ ?_
    exact List.mem_singleton.mpr (Bool.eq_true_of_not_eq_false cut).symm
  have none : j.engine.cuts = [] := rfl
  exact ((s.cut_next_iff _).mp ended).resolve_left (none ▸ List.not_mem_nil)

/-- Which lifetimes get an expiry out of the range of the clock, and when.

    The lifetimes that a file can set are those whose seconds have 64 bits, which is more than the
    clock has.  An expiry gets out of the range, and cuts a dispatch short, exactly if a category
    name is worked out at a reading from which the lifetime ends beyond it.  So there is a way to
    it, with no reading after a given one, exactly if the lifetime ends beyond the range from that
    one. -/
theorem overrun_by_lifetime (settings : EngineSettings) (environment : Environment)
    (kind : Observation) (directory : Directory) (now : Stamp) :
    let lifetime := settings.categoryLifetime
    let fresh := start settings environment kind directory now
    (∀ t, (∃ content file,
        AlertsFile.parse content = .ok file ∧ file.settings.categoryLifetime = t) ↔
      t / nanosPerSecond ≤ maxWord) ∧
    (∀ happenings, (∃ d ∈ (fresh.through happenings).engine.dispatches, d.cut = true) ↔
      ∃ before h after, happenings = before ++ h :: after ∧
        (fresh.through before).RunsOver lifetime h) ∧
    (∀ latest, (∀ happenings,
        (∀ reading ∈ happenings.filterMap Happening.reading?, reading ≤ latest) →
        ∀ d ∈ (fresh.through happenings).engine.dispatches, d.cut = false) ↔
      latest + lifetime ≤ latestReading) := by
  intro lifetime fresh
  have s : Sound kind lifetime fresh := sound_start settings environment kind directory now
  have whole : ∀ happenings, (∃ d ∈ (fresh.through happenings).engine.dispatches, d.cut = true) ↔
      ∃ before h after, happenings = before ++ h :: after ∧
        (fresh.through before).RunsOver lifetime h := by
    intro happenings
    rw [← List.mem_map]
    exact (s.cut_through_iff happenings).trans (or_iff_right List.not_mem_nil)
  refine ⟨fun t => AlertsFile.exists_lifetime_iff, whole, ?_⟩
  intro latest
  constructor
  · intro safe
    by_contra beyond
    have runs := runsOver_wayTo settings environment kind directory now (Nat.not_le.mp beyond)
    obtain ⟨d, listed, cut⟩ := (whole _).mpr ⟨_, _, [], rfl, runs⟩
    rw [safe _ (by simp [wayTo, Happening.reading?]) d listed] at cut
    cases cut
  · intro within happenings early d listed
    rw [← Bool.not_eq_true]
    intro cut
    obtain ⟨before, h, after, rfl, _, beyond⟩ := (whole happenings).mp ⟨d, listed, cut⟩
    refine Nat.not_le_of_lt beyond ((Nat.add_le_add_right ?_ lifetime).trans within)
    -- the clock was read at the start, or set on the way
    rcases List.mem_cons.mp (s.kept.elapsed_through_mem before) with start | set
    · rw [start]
      exact Nat.zero_le latest
    · refine early _ ?_
      rw [List.filterMap_append]
      exact List.mem_append_left _ set

/-- A replay of one line ends because of a lifetime that the file may set. -/
theorem replay_ended_by_lifetime :
    let alerts := "[engine]\ncategory_ttl = \"18446744073709551615s\"\n\n" ++
      "[[messaging.channels]]\nid = \"1\"\nname = \"staff\"\n\n" ++
      "[[alerts]]\ntrigger = \"PlayerJoinEvent\"\nchannel = \"staff\"\ncontent = \"hi\"\n"
    let input := "\x7b\"category\":\"a.PlayerJoinEvent\"\x7d\n"
    (AlertsFile.parse alerts).toOption.map (fun file => file.settings.categoryLifetime) =
      some (maxWord * nanosPerSecond) ∧
    (match Replay.ofInput alerts alerts input.toUTF8 ⟨0⟩ with
      | .ok _ => none
      | .error e => some e) = some ReplayError.overrun := by
  decide +kernel

end Journal

end EventAlerts
