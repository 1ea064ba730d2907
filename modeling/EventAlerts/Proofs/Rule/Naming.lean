/-
  EventAlerts/Proofs/Rule/Naming.lean
  ===================================
  **Category names with a cache and without** — whatever a cache of category names went
  through, the name that it serves for a text is the one that the text holds.

  The invariant is `Resolver.Faithful`: every result that is kept is what its text gives.
  All that is ever done to a cache is to resolve texts at readings of the clock and to
  clear it, which are the `ResolverEvent`s; also resolving the triggers of a rule is a run
  of such events (`Trigger.reaches_resolveEach`).  So the invariant and the lifetime need to be
  looked at for these events only.

  `Trigger.effective` are the triggers that a rule goes by if there is no cache at all.  With
  any cache that is faithful a rule goes by them too (`Trigger.effective_of_ok`), or by none,
  for a cache may have no answer.  When it has one is `Resolver.Answers`, and the triggers of a
  rule are resolved exactly if there is an answer for the text of each
  (`Trigger.resolveAll_ok_iff`).  As long as there is, resolving does not change for which
  texts there is one (`Trigger.answersAll_resolveEach`).
-/
import EventAlerts.Proofs.Rule.Distinct

namespace EventAlerts.Rule

open EventAlerts.Time (Span latestReading)

/-- What can happen to a cache of category names. -/
inductive ResolverEvent
  /-- A text is resolved at a reading of the clock. -/
  | resolve (now : Span) (raw : String)
  | clear
  deriving Repr, DecidableEq

namespace Resolver

def step (r : Resolver) : ResolverEvent → Resolver
  | .resolve now raw => (r.resolve now raw).2
  | .clear => r.clear

def after (r : Resolver) (events : List ResolverEvent) : Resolver := events.foldl step r

theorem after_append (r : Resolver) (events later : List ResolverEvent) :
    r.after (events ++ later) = (r.after events).after later :=
  List.foldl_append

/-- Every result that is kept is what its text gives. -/
def Faithful (r : Resolver) : Prop := ∀ e ∈ r.cached, e.name = categoryName? e.raw

/-- Whether there is an answer for a text: its result is kept, or can be. -/
def Answers (r : Resolver) (now : Span) (raw : String) : Prop :=
  (r.live? now raw).isSome ∨ now + r.lifetime ≤ latestReading

instance (r : Resolver) (now : Span) (raw : String) : Decidable (r.Answers now raw) :=
  inferInstanceAs (Decidable (_ ∨ _))

variable {r : Resolver} {now : Span} {raw : String}

/-! ### Looking up -/

theorem live?_eq_some {e : CachedName} (found : r.live? now raw = some e) :
    e ∈ r.cached ∧ e.raw = raw ∧ now < e.expiry := by
  unfold live? at found
  obtain ⟨first, unexpired⟩ := Option.filter_eq_some_iff.mp found
  have named := List.find?_some first
  exact ⟨List.mem_of_find?_eq_some first, of_decide_eq_true named, of_decide_eq_true unexpired⟩

/-- All that resolving a text can come to. -/
theorem resolve_cases (r : Resolver) (now : Span) (raw : String) :
    (∃ e, r.live? now raw = some e ∧ r.resolve now raw = (.ok e.name, r)) ∨
    (r.live? now raw = none ∧ now + r.lifetime ≤ latestReading ∧
      r.resolve now raw = (.ok (categoryName? raw), (r.workOut now).keep now raw)) ∨
    (¬ r.Answers now raw ∧ r.resolve now raw = (.error {}, r.workOut now)) := by
  cases found : r.live? now raw with
  | some e => exact .inl ⟨e, rfl, by simp only [resolve, found]⟩
  | none =>
    have lifetime : (r.workOut now).lifetime = r.lifetime := rfl
    by_cases within : now + r.lifetime ≤ latestReading
    · refine .inr (.inl ⟨rfl, within, ?_⟩)
      simp only [resolve, found, lifetime, if_pos within]
    · refine .inr (.inr ⟨?_, ?_⟩)
      · simp [Answers, found, within]
      · simp only [resolve, found, lifetime, if_neg within]

theorem resolve_ok_iff : (∃ name, (r.resolve now raw).1 = .ok name) ↔ r.Answers now raw := by
  rcases r.resolve_cases now raw with ⟨e, found, same⟩ | ⟨_, within, same⟩ | ⟨none, same⟩
  · rw [same]
    exact iff_of_true ⟨_, rfl⟩ (.inl (by rw [found]; rfl))
  · rw [same]
    exact iff_of_true ⟨_, rfl⟩ (.inr within)
  · rw [same]
    exact iff_of_false (fun ⟨_, answered⟩ => nomatch answered) none

/-! ### The invariant -/

theorem faithful_nil (faithless : r.cached = []) : r.Faithful := by
  intro e member
  rw [faithless] at member
  cases member

namespace Faithful

theorem workOut (f : r.Faithful) (now : Span) : (r.workOut now).Faithful :=
  fun e member => f e (List.mem_filter.mp member).1

theorem keep (f : r.Faithful) (now : Span) (raw : String) : (r.keep now raw).Faithful := by
  intro e member
  rcases List.mem_append.mp member with old | new
  · exact f e old
  · rw [List.mem_singleton.mp new]

/-- The name that is served is the one in the text. -/
theorem name_of_ok (f : r.Faithful) {name : Option String}
    (answered : (r.resolve now raw).1 = .ok name) : name = categoryName? raw := by
  rcases r.resolve_cases now raw with ⟨e, found, same⟩ | ⟨_, _, same⟩ | ⟨_, same⟩
  · obtain ⟨member, rfl, _⟩ := live?_eq_some found
    rw [same] at answered
    cases answered
    exact f e member
  · rw [same] at answered
    cases answered
    rfl
  · rw [same] at answered
    cases answered

theorem step (f : r.Faithful) (event : ResolverEvent) : (r.step event).Faithful := by
  cases event with
  | clear => exact faithful_nil rfl
  | resolve now raw =>
    rw [Resolver.step]
    rcases r.resolve_cases now raw with ⟨e, _, same⟩ | ⟨_, _, same⟩ | ⟨_, same⟩
    · rw [same]
      exact f
    · rw [same]
      exact (f.workOut now).keep now raw
    · rw [same]
      exact f.workOut now

theorem after (f : r.Faithful) (events : List ResolverEvent) : (r.after events).Faithful := by
  induction events generalizing r with
  | nil => exact f
  | cons event rest ih => exact ih (f.step event)

end Faithful

/-! ### Lifetimes and answers -/

theorem lifetime_resolve (r : Resolver) (now : Span) (raw : String) :
    (r.resolve now raw).2.lifetime = r.lifetime := by
  rcases r.resolve_cases now raw with ⟨e, _, same⟩ | ⟨_, _, same⟩ | ⟨_, same⟩
  · rw [same]
  · rw [same]
    rfl
  · rw [same]
    rfl

theorem lifetime_step (r : Resolver) (event : ResolverEvent) :
    (r.step event).lifetime = r.lifetime := by
  cases event with
  | clear => rfl
  | resolve now raw => exact r.lifetime_resolve now raw

theorem lifetime_after (r : Resolver) (events : List ResolverEvent) :
    (r.after events).lifetime = r.lifetime := by
  induction events generalizing r with
  | nil => rfl
  | cons event rest ih => exact (ih (r.step event)).trans (r.lifetime_step event)

/-- Where no new result can be kept, resolving a text leaves the cache as it is, or drops
    what has expired. -/
theorem resolve_of_beyond (beyond : ¬ now + r.lifetime ≤ latestReading) :
    (r.resolve now raw).2 = if r.Answers now raw then r else r.workOut now := by
  rcases r.resolve_cases now raw with ⟨e, found, same⟩ | ⟨_, within, _⟩ | ⟨none, same⟩
  · have answers : r.Answers now raw := .inl (by rw [found]; rfl)
    rw [same, if_pos answers]
  · exact absurd within beyond
  · rw [same, if_neg none]

/-- An answer does not change for which texts there is one. -/
theorem answers_resolve (answers : r.Answers now raw) (other : String) :
    (r.resolve now raw).2.Answers now other ↔ r.Answers now other := by
  -- within the range every text has an answer, beyond it only a kept result can be one
  by_cases within : now + r.lifetime ≤ latestReading
  · have still : now + (r.resolve now raw).2.lifetime ≤ latestReading := by
      rw [lifetime_resolve]
      exact within
    exact iff_of_true (.inr still) (.inr within)
  · rw [resolve_of_beyond within, if_pos answers]

/-- One cache comes from another by what can be done to caches. -/
def Reaches (r r' : Resolver) : Prop := ∃ events, r' = r.after events

namespace Reaches

variable {r' r'' : Resolver}

theorem refl (r : Resolver) : Reaches r r := ⟨[], rfl⟩

theorem trans (first : Reaches r r') (second : Reaches r' r'') : Reaches r r'' := by
  obtain ⟨events, rfl⟩ := first
  obtain ⟨later, rfl⟩ := second
  exact ⟨events ++ later, (r.after_append events later).symm⟩

theorem step (r : Resolver) (event : ResolverEvent) : Reaches r (r.step event) := ⟨[event], rfl⟩

theorem faithful (reaches : Reaches r r') (f : r.Faithful) : r'.Faithful := by
  obtain ⟨events, rfl⟩ := reaches
  exact f.after events

theorem lifetime (reaches : Reaches r r') : r'.lifetime = r.lifetime := by
  obtain ⟨events, rfl⟩ := reaches
  exact r.lifetime_after events

end Reaches

end Resolver

/-! ### The triggers of a rule -/

namespace Trigger

/-- The trigger with its category name found; nothing if it has none. -/
def named? : Trigger → Option Trigger
  | .command name => some (.command name)
  | .category raw => (categoryName? raw).map .category

/-- The triggers that a rule goes by. -/
def effective (triggers : List Trigger) : List Trigger :=
  distinctBy id (triggers.filterMap named?)

end Trigger

/-- Whether there is an answer for the text of each trigger. -/
def Resolver.AnswersAll (r : Resolver) (now : Span) (triggers : List Trigger) : Prop :=
  ∀ raw ∈ triggers.filterMap Trigger.category?, r.Answers now raw

instance (r : Resolver) (now : Span) (triggers : List Trigger) :
    Decidable (r.AnswersAll now triggers) :=
  inferInstanceAs (Decidable (∀ raw ∈ triggers.filterMap Trigger.category?, r.Answers now raw))

namespace Resolver

variable {r : Resolver} {now : Span}

theorem answersAll_of_within (within : now + r.lifetime ≤ latestReading)
    (triggers : List Trigger) : r.AnswersAll now triggers :=
  fun _ _ => .inr within

theorem answersAll_cons {t : Trigger} {rest : List Trigger} :
    r.AnswersAll now (t :: rest) ↔ r.AnswersAll now [t] ∧ r.AnswersAll now rest := by
  cases t with
  | command name => simp [AnswersAll, Trigger.category?]
  | category raw => simp [AnswersAll, Trigger.category?]

theorem answersAll_category {raw : String} :
    r.AnswersAll now [.category raw] ↔ r.Answers now raw := by
  simp [AnswersAll, Trigger.category?]

end Resolver

namespace Trigger

open Resolver (Reaches answersAll_cons answersAll_category)

variable {r : Resolver} {now : Span}

/-! ### One trigger -/

theorem resolve_ok_iff {t : Trigger} :
    (∃ found, (t.resolve r now).1 = .ok found) ↔ r.AnswersAll now [t] := by
  cases t with
  | command name => exact iff_of_true ⟨_, rfl⟩ nofun
  | category raw =>
    rw [answersAll_category, ← Resolver.resolve_ok_iff]
    simp only [resolve]
    cases (r.resolve now raw).1 with
    | error e => exact iff_of_false (fun ⟨_, answered⟩ => nomatch answered) nofun
    | ok name => exact iff_of_true ⟨_, rfl⟩ ⟨_, rfl⟩

theorem named_of_ok (f : r.Faithful) {t : Trigger} {found : Option Trigger}
    (answered : (t.resolve r now).1 = .ok found) : found = t.named? := by
  cases t with
  | command name =>
    cases answered
    rfl
  | category raw =>
    simp only [resolve] at answered
    cases served : (r.resolve now raw).1 with
    | error e =>
      rw [served] at answered
      cases answered
    | ok name =>
      rw [served] at answered
      cases answered
      rw [named?, f.name_of_ok served]

theorem reaches_resolve (r : Resolver) (now : Span) (t : Trigger) :
    Reaches r (t.resolve r now).2 := by
  cases t with
  | command name => exact Reaches.refl r
  | category raw => exact Reaches.step r (.resolve now raw)

theorem answersAll_resolve {t : Trigger} (answers : r.AnswersAll now [t])
    (triggers : List Trigger) :
    (t.resolve r now).2.AnswersAll now triggers ↔ r.AnswersAll now triggers := by
  cases t with
  | command name => exact Iff.rfl
  | category raw =>
    exact forall₂_congr fun other _ =>
      Resolver.answers_resolve (answersAll_category.mp answers) other

theorem resolve_snd_of_beyond (beyond : ¬ now + r.lifetime ≤ latestReading) {t : Trigger} :
    (t.resolve r now).2 = if r.AnswersAll now [t] then r else r.workOut now := by
  cases t with
  | command name => rfl
  | category raw =>
    simp only [resolve, answersAll_category]
    exact Resolver.resolve_of_beyond beyond

/-! ### All triggers -/

theorem resolveEach_cons_of_ok {t : Trigger} {found : Option Trigger}
    (answered : (t.resolve r now).1 = .ok found) (rest : List Trigger) :
    resolveEach r now (t :: rest) =
      ((resolveEach (t.resolve r now).2 now rest).1.map fun others => found.toList ++ others,
        (resolveEach (t.resolve r now).2 now rest).2) := by
  have both : t.resolve r now = (.ok found, (t.resolve r now).2) := Prod.ext answered rfl
  rw [resolveEach, both]

theorem resolveEach_cons_of_error {t : Trigger} {e : Overrun}
    (stopped : (t.resolve r now).1 = .error e) (rest : List Trigger) :
    resolveEach r now (t :: rest) = (.error e, (t.resolve r now).2) := by
  have both : t.resolve r now = (.error e, (t.resolve r now).2) := Prod.ext stopped rfl
  rw [resolveEach, both]

theorem reaches_resolveEach (r : Resolver) (now : Span) (triggers : List Trigger) :
    Reaches r (resolveEach r now triggers).2 := by
  induction triggers generalizing r with
  | nil => exact Reaches.refl r
  | cons t rest ih =>
    cases answered : (t.resolve r now).1 with
    | error e =>
      rw [resolveEach_cons_of_error answered]
      exact reaches_resolve r now t
    | ok found =>
      rw [resolveEach_cons_of_ok answered]
      exact (reaches_resolve r now t).trans (ih _)

theorem resolveEach_ok_iff {triggers : List Trigger} :
    (∃ found, (resolveEach r now triggers).1 = .ok found) ↔ r.AnswersAll now triggers := by
  induction triggers generalizing r with
  | nil => exact iff_of_true ⟨[], rfl⟩ nofun
  | cons t rest ih =>
    rw [answersAll_cons]
    cases answered : (t.resolve r now).1 with
    | error e =>
      rw [resolveEach_cons_of_error answered]
      refine iff_of_false (fun ⟨_, all⟩ => nomatch all) ?_
      rintro ⟨here, _⟩
      obtain ⟨found, same⟩ := resolve_ok_iff.mpr here
      rw [answered] at same
      cases same
    | ok found =>
      have here := resolve_ok_iff.mp ⟨found, answered⟩
      rw [resolveEach_cons_of_ok answered, ← answersAll_resolve here rest, ← ih,
        and_iff_right here]
      cases (resolveEach (t.resolve r now).2 now rest).1 with
      | error e => exact iff_of_false (fun ⟨_, all⟩ => nomatch all) nofun
      | ok others => exact iff_of_true ⟨_, rfl⟩ ⟨_, rfl⟩

theorem filterMap_of_ok (f : r.Faithful) {triggers found : List Trigger}
    (answered : (resolveEach r now triggers).1 = .ok found) :
    found = triggers.filterMap named? := by
  induction triggers generalizing r found with
  | nil =>
    cases answered
    rfl
  | cons t rest ih =>
    cases first : (t.resolve r now).1 with
    | error e =>
      rw [resolveEach_cons_of_error first] at answered
      cases answered
    | ok name =>
      have kept := (reaches_resolve r now t).faithful f
      rw [resolveEach_cons_of_ok first] at answered
      cases later : (resolveEach (t.resolve r now).2 now rest).1 with
      | error e =>
        rw [later] at answered
        cases answered
      | ok others =>
        rw [later] at answered
        cases answered
        rw [named_of_ok f first, ih kept later]
        cases named : t.named? with
        | none =>
          rw [List.filterMap_cons_none named]
          rfl
        | some found =>
          rw [List.filterMap_cons_some named]
          rfl

/-- Where no new result can be kept, resolving triggers leaves the cache as it is, or drops
    what has expired and stops. -/
theorem resolveEach_snd_of_beyond (beyond : ¬ now + r.lifetime ≤ latestReading)
    (triggers : List Trigger) :
    (resolveEach r now triggers).2 = if r.AnswersAll now triggers then r else r.workOut now := by
  induction triggers with
  | nil => rfl
  | cons t rest ih =>
    by_cases here : r.AnswersAll now [t]
    · -- the cache has not changed, so the rest finds it as it was
      obtain ⟨found, answered⟩ := resolve_ok_iff.mpr here
      rw [resolveEach_cons_of_ok answered, resolve_snd_of_beyond beyond, if_pos here, ih]
      exact if_congr (answersAll_cons.trans (and_iff_right here)).symm rfl rfl
    · cases answered : (t.resolve r now).1 with
      | error e =>
        rw [resolveEach_cons_of_error answered, resolve_snd_of_beyond beyond, if_neg here,
          if_neg fun all => here (answersAll_cons.mp all).1]
      | ok found => exact absurd (resolve_ok_iff.mp ⟨found, answered⟩) here

theorem answersAll_resolveEach {triggers : List Trigger} (answers : r.AnswersAll now triggers)
    (others : List Trigger) :
    (resolveEach r now triggers).2.AnswersAll now others ↔ r.AnswersAll now others := by
  by_cases within : now + r.lifetime ≤ latestReading
  · have still : now + (resolveEach r now triggers).2.lifetime ≤ latestReading := by
      rw [(reaches_resolveEach r now triggers).lifetime]
      exact within
    exact iff_of_true (Resolver.answersAll_of_within still others)
      (Resolver.answersAll_of_within within others)
  · rw [resolveEach_snd_of_beyond within, if_pos answers]

theorem resolveAll_ok_iff {triggers : List Trigger} :
    (∃ found, (resolveAll r now triggers).1 = .ok found) ↔ r.AnswersAll now triggers := by
  rw [← resolveEach_ok_iff]
  simp only [resolveAll]
  cases (resolveEach r now triggers).1 with
  | error e =>
    constructor <;> rintro ⟨_, ⟨⟩⟩
  | ok found => exact iff_of_true ⟨_, rfl⟩ ⟨_, rfl⟩

/-- Triggers that are resolved are those that the rule goes by. -/
theorem effective_of_ok (f : r.Faithful) {triggers found : List Trigger}
    (answered : (resolveAll r now triggers).1 = .ok found) : found = effective triggers := by
  simp only [resolveAll] at answered
  cases each : (resolveEach r now triggers).1 with
  | error e =>
    rw [each] at answered
    cases answered
  | ok resolved =>
    rw [each] at answered
    cases answered
    rw [filterMap_of_ok f each]
    rfl

end Trigger

end EventAlerts.Rule
