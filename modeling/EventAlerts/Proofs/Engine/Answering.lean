/-
  EventAlerts/Proofs/Engine/Answering.lean
  ========================================
  **What a rule answers** — the outcome and the messages of one rule for one occurrence,
  told from the rule and the circumstances alone.

  Circumstances are what the rules of a dispatch share: what they read, the destinations
  that reject messages, and the occurrence.  `AlertRule.answer` has no place for the other
  rules, for the cache of category names, for the time at which a rule is run or for
  whether it is synchronous.  What a dispatch does about a rule at once `Leads` to this
  answer on each of the four ways that a rule can take (`leads_dispatch`): its triggers
  accept nothing, it is skipped at once, it leaves its messages, or it is left as a whole.
  The cache does not get in between, for a dispatch with a faithful cache is a dispatch
  with the triggers that rules go by (`dispatchRules_of_faithful`).  All it can do is to cut the
  dispatch short.  Which rules are reached, then, is told from the cache as it was before
  the dispatch (`reachedRules`).
-/
import EventAlerts.Engine.Dispatch
import EventAlerts.Proofs.Engine.Waiting
import EventAlerts.Proofs.Rule.Naming
import Mathlib.Data.List.TakeWhile

namespace EventAlerts

open EventAlerts.Rule (Resolver Trigger)
open EventAlerts.Time (Span latestReading)

/-- What the rules of a dispatch have in common. -/
structure Circumstances where
  surroundings : Surroundings
  /-- The ids of destinations that nothing can be sent to. -/
  failing : List String := []
  occurrence : Occurrence
  /-- What the rules read from the occurrence. -/
  base : OccurrenceContext := OccurrenceContext.ofOccurrence occurrence

namespace AlertRule

/-- The triggers of a rule that accept an occurrence. -/
def accepting (r : AlertRule) (base : OccurrenceContext) : List Trigger :=
  Trigger.matching (Trigger.effective r.triggers) base.category base.command

def answer (r : AlertRule) (c : Circumstances) : Answer :=
  (r.prepare c.surroundings (r.accepting c.base) c.occurrence c.base).answer c.failing

end AlertRule

/-! ### A rule that is run at once -/

theorem Recorder.deliver_eq (r : Recorder) (t : Tally) (sendings : List Sending) :
    (r.deliver t sendings).1 = (t.after r.failing sendings).outcome ∧
      (r.deliver t sendings).2.deliveries = r.deliveries ++ sendings := by
  induction sendings generalizing r t with
  | nil => exact ⟨rfl, (List.append_nil _).symm⟩
  | cons s rest ih =>
    obtain ⟨outcome, recorded⟩ := ih (r.send s).2 (t.count (r.send s).1.isSome)
    refine ⟨outcome, recorded.trans ?_⟩
    rw [Recorder.deliveries_send, List.append_assoc, List.singleton_append]

theorem Recorder.carryOut_eq (r : Recorder) (p : Preparation) :
    (r.carryOut p).1 = (p.answer r.failing).outcome ∧
      (r.carryOut p).2.deliveries = r.deliveries ++ (p.answer r.failing).sendings := by
  unfold Recorder.carryOut Preparation.answer
  cases p.result with
  | skip outcome => exact ⟨rfl, by simp⟩
  | deliver sendings =>
    obtain ⟨outcome, recorded⟩ := (r.logLookups p.lookups).deliver_eq {} sendings
    exact ⟨outcome, recorded.trans (by rw [Recorder.deliveries_logLookups])⟩

/-- To run a rule at once is to give its answer. -/
theorem AlertRule.run_eq_answer (r : AlertRule) (c : Circumstances) (platform : Recorder)
    (failing : platform.failing = c.failing) :
    (r.run c.surroundings (r.accepting c.base) c.occurrence c.base platform).1 =
        (r.answer c).outcome ∧
      (r.run c.surroundings (r.accepting c.base) c.occurrence c.base platform).2.deliveries =
        platform.deliveries ++ (r.answer c).sendings := by
  unfold AlertRule.run AlertRule.answer
  rw [← failing]
  exact platform.carryOut_eq _

/-! ### What a dispatch leads to -/

/-- What a piece of work comes to under circumstances. -/
def Work.answer (c : Circumstances) (w : Work) : Answer :=
  (w.prepare c.surroundings c.occurrence c.base).answer c.failing

/-- Whether an answer is what becomes of a rule: it has been given already, or what is left
    comes to it. -/
def Disposition.Leads (c : Circumstances) (answer : Answer) : Disposition → Prop
  | .settled outcome => answer = { outcome := outcome }
  | .left work => work.answer c = answer

theorem AlertRule.leads_dispatch (r : AlertRule) (c : Circumstances) :
    (r.dispatch c.surroundings c.occurrence c.base (Trigger.effective r.triggers)).1.Leads c
      (r.answer c) := by
  simp only [AlertRule.dispatch]
  split
  · rename_i unaccepted
    have nothing : r.accepting c.base = [] := List.isEmpty_iff.mp unaccepted
    simp [Disposition.Leads, AlertRule.answer, nothing, AlertRule.prepare, Preparation.answer]
  split
  · rfl
  split
  · rename_i outcome result
    have skipped : (r.prepare c.surroundings (r.accepting c.base) c.occurrence c.base).result =
        .skip outcome := result
    simp only [Disposition.Leads, AlertRule.answer, Preparation.answer, skipped]
  · rename_i sendings result
    have ready : (r.prepare c.surroundings (r.accepting c.base) c.occurrence c.base).result =
        .deliver sendings := result
    simp only [Disposition.Leads, Work.answer, Work.prepare, AlertRule.answer, Preparation.answer,
      ready]

theorem AlertRule.messagesFor_withRunAsync (r : AlertRule) (c : Circumstances) (runAsync : Bool)
    (destinations : List Destination) :
    messagesFor { r with runAsync := runAsync } c.surroundings c.occurrence c.base destinations =
      r.messagesFor c.surroundings c.occurrence c.base destinations := by
  induction destinations with
  | nil => rfl
  | cons d rest ih =>
    rw [messagesFor, messagesFor, ih]
    rfl

/-- Whether a rule is synchronous does not matter for its answer. -/
theorem AlertRule.answer_withRunAsync (r : AlertRule) (c : Circumstances) (runAsync : Bool) :
    answer { r with runAsync := runAsync } c = r.answer c := by
  have same : accepting { r with runAsync := runAsync } c.base = r.accepting c.base := rfl
  simp only [answer, same, prepare, messagesFor_withRunAsync]

/-! ### All rules of a dispatch -/

/-- The rules that a dispatch reaches: those before the first one with a trigger that there is
    no answer for. -/
def reachedRules (resolver : Resolver) (now : Span) (rules : List AlertRule) : List AlertRule :=
  rules.takeWhile fun r => resolver.AnswersAll now r.triggers

section Reached

variable {resolver : Resolver} {now : Span} {r : AlertRule} {rest rules : List AlertRule}

theorem reachedRules_cons_of_answers (answers : resolver.AnswersAll now r.triggers) :
    reachedRules resolver now (r :: rest) = r :: reachedRules resolver now rest :=
  List.takeWhile_cons_of_pos (decide_eq_true answers)

theorem reachedRules_cons_of_none (none : ¬ resolver.AnswersAll now r.triggers) :
    reachedRules resolver now (r :: rest) = [] :=
  List.takeWhile_cons_of_neg fun answers => none (of_decide_eq_true answers)

theorem reachedRules_isPrefix (resolver : Resolver) (now : Span) (rules : List AlertRule) :
    reachedRules resolver now rules <+: rules :=
  List.takeWhile_prefix _

theorem reachedRules_getElem? {place : Nat}
    (inside : place < (reachedRules resolver now rules).length) :
    (reachedRules resolver now rules)[place]? = rules[place]? := by
  obtain ⟨others, whole⟩ := reachedRules_isPrefix resolver now rules
  calc (reachedRules resolver now rules)[place]?
      = (reachedRules resolver now rules ++ others)[place]? :=
        (List.getElem?_append_left inside).symm
    _ = rules[place]? := congrArg (fun l => l[place]?) whole

theorem reachedRules_of_within (within : now + resolver.lifetime ≤ latestReading)
    (rules : List AlertRule) : reachedRules resolver now rules = rules :=
  List.takeWhile_eq_self_iff.mpr fun r _ =>
    decide_eq_true (Resolver.answersAll_of_within within r.triggers)

/-- Which rules are reached does not change while they are. -/
theorem reachedRules_resolveAll (answers : resolver.AnswersAll now r.triggers) :
    reachedRules (Trigger.resolveAll resolver now r.triggers).2 now rules =
      reachedRules resolver now rules := by
  have same : ∀ other : AlertRule,
      (Trigger.resolveAll resolver now r.triggers).2.AnswersAll now other.triggers ↔
        resolver.AnswersAll now other.triggers :=
    fun other => Trigger.answersAll_resolveEach answers other.triggers
  simp only [reachedRules, same]

end Reached

section Rules

variable (s : Surroundings) (o : Occurrence) (base : OccurrenceContext) (now : Span)

/-- All that a dispatch can do about its first rule: the rule is reached, and the others come
    after it, or the dispatch is cut short. -/
theorem dispatchRules_cons_cases (resolver : Resolver) (r : AlertRule) (rest : List AlertRule) :
    let resolved := Trigger.resolveAll resolver now r.triggers
    let others := dispatchRules s o base now resolved.2 rest
    (∃ effective, resolved.1 = .ok effective ∧ resolver.AnswersAll now r.triggers ∧
      dispatchRules s o base now resolver (r :: rest) =
        { others with
          each := (r.dispatch s o base effective).1 :: others.each
          lookups := (r.dispatch s o base effective).2 ++ others.lookups }) ∨
    (¬ resolver.AnswersAll now r.triggers ∧
      dispatchRules s o base now resolver (r :: rest) =
        { resolver := resolved.2, cut := true }) := by
  intro resolved others
  cases answered : resolved.1 with
  | error err =>
    have both : Trigger.resolveAll resolver now r.triggers = (.error err, resolved.2) :=
      Prod.ext answered rfl
    refine .inr ⟨?_, by rw [dispatchRules, both]⟩
    rw [← Trigger.resolveAll_ok_iff, both]
    exact fun ⟨_, ok⟩ => nomatch ok
  | ok effective =>
    have both : Trigger.resolveAll resolver now r.triggers = (.ok effective, resolved.2) :=
      Prod.ext answered rfl
    refine .inl ⟨effective, rfl, Trigger.resolveAll_ok_iff.mp ⟨effective, answered⟩, ?_⟩
    rw [dispatchRules, both]

theorem reaches_dispatchRules (resolver : Resolver) (rules : List AlertRule) :
    Resolver.Reaches resolver (dispatchRules s o base now resolver rules).resolver := by
  induction rules generalizing resolver with
  | nil => exact Resolver.Reaches.refl resolver
  | cons r rest ih =>
    have first := Trigger.reaches_resolveEach resolver now r.triggers
    rcases dispatchRules_cons_cases s o base now resolver r rest with ⟨_, _, _, same⟩ | ⟨_, same⟩
    · rw [same]
      exact first.trans (ih _)
    · rw [same]
      exact first

theorem length_each (resolver : Resolver) (rules : List AlertRule) :
    (dispatchRules s o base now resolver rules).each.length =
      (reachedRules resolver now rules).length := by
  induction rules generalizing resolver with
  | nil => rfl
  | cons r rest ih =>
    rcases dispatchRules_cons_cases s o base now resolver r rest with
      ⟨_, _, answers, same⟩ | ⟨none, same⟩
    · rw [same, reachedRules_cons_of_answers answers, List.length_cons, List.length_cons, ih,
        reachedRules_resolveAll answers]
    · rw [same, reachedRules_cons_of_none none]
      rfl

/-- A dispatch is cut short exactly if some rule is not reached. -/
theorem cut_dispatchRules (resolver : Resolver) (rules : List AlertRule) :
    (dispatchRules s o base now resolver rules).cut = false ↔
      reachedRules resolver now rules = rules := by
  induction rules generalizing resolver with
  | nil => exact iff_of_true rfl rfl
  | cons r rest ih =>
    rcases dispatchRules_cons_cases s o base now resolver r rest with
      ⟨_, _, answers, same⟩ | ⟨none, same⟩
    · rw [same, reachedRules_cons_of_answers answers, List.cons_inj_right,
        ← reachedRules_resolveAll answers, ← ih]
    · rw [same, reachedRules_cons_of_none none]
      exact iff_of_false nofun nofun

theorem cut_of_within {resolver : Resolver} (within : now + resolver.lifetime ≤ latestReading)
    (rules : List AlertRule) : (dispatchRules s o base now resolver rules).cut = false :=
  (cut_dispatchRules s o base now resolver rules).mpr (reachedRules_of_within within rules)

/-- Where no new result can be kept, a dispatch leaves the cache as it is, or drops what has
    expired and is cut short. -/
theorem resolver_of_beyond {resolver : Resolver}
    (beyond : ¬ now + resolver.lifetime ≤ latestReading) (rules : List AlertRule) :
    let d := dispatchRules s o base now resolver rules
    d.resolver = if d.cut then resolver.workOut now else resolver := by
  induction rules with
  | nil => rfl
  | cons r rest ih =>
    have first : (Trigger.resolveAll resolver now r.triggers).2 = _ :=
      Trigger.resolveEach_snd_of_beyond beyond r.triggers
    rcases dispatchRules_cons_cases s o base now resolver r rest with
      ⟨_, _, answers, same⟩ | ⟨none, same⟩
    · rw [first, if_pos answers] at same
      rw [same]
      exact ih
    · rw [same, first, if_neg none]
      rfl

variable {resolver : Resolver} (faithful : resolver.Faithful)
include faithful

/-- With a faithful cache, a dispatch does about the rules that it reaches what there is to be
    done with the triggers that they go by. -/
theorem dispatchRules_of_faithful (rules : List AlertRule) :
    let d := dispatchRules s o base now resolver rules
    let done := (reachedRules resolver now rules).map fun r =>
      r.dispatch s o base (Trigger.effective r.triggers)
    d.each = done.map Prod.fst ∧ d.lookups = done.flatMap Prod.snd := by
  induction rules generalizing resolver with
  | nil => exact ⟨rfl, rfl⟩
  | cons r rest ih =>
    have kept : (Trigger.resolveAll resolver now r.triggers).2.Faithful :=
      (Trigger.reaches_resolveEach resolver now r.triggers).faithful faithful
    rcases dispatchRules_cons_cases s o base now resolver r rest with
      ⟨effective, answered, answers, same⟩ | ⟨none, same⟩
    · -- the other rules find the cache that the first one leaves, and are reached as before
      obtain ⟨each, lookups⟩ := ih kept
      rw [reachedRules_resolveAll answers] at each lookups
      rw [same, reachedRules_cons_of_answers answers, Trigger.effective_of_ok faithful answered]
      exact ⟨congrArg (_ :: ·) each, congrArg (_ ++ ·) lookups⟩
    · rw [same, reachedRules_cons_of_none none]
      exact ⟨rfl, rfl⟩

theorem each_dispatchRules (rules : List AlertRule) :
    (dispatchRules s o base now resolver rules).each =
      (reachedRules resolver now rules).map fun r =>
        (r.dispatch s o base (Trigger.effective r.triggers)).1 :=
  (dispatchRules_of_faithful s o base now faithful rules).1.trans List.map_map

end Rules

end EventAlerts
