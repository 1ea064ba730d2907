/-
  EventAlerts/Proofs/Engine/Isolation.lean
  ========================================
  **Rules by themselves** — what a rule does about an occurrence is its own affair.

  The answer of a rule is due from the dispatch on (`Ending`), and it is told without the
  other rules of the list and without the time at which tasks are taken up.  All that the
  others can do is to cut the dispatch short before the rule is reached.  Two theorems say
  what that means.  `siblings_apart` runs one occurrence against two lists of rules
  that have one rule in common: this rule ends in the same way and sends the same messages
  in both runs.  `as_if_at_once` holds the work of a rule, taken up in any order and
  between any reloads, against the rule that is run at once, synchronous or not.
-/
import EventAlerts.Proofs.Engine.Ending

namespace EventAlerts

open EventAlerts.Rule (Trigger)
open EventAlerts.Time (Span Stamp latestReading)

namespace Dispatch

theorem finished_of_each {d : Dispatch} {rules : List AlertRule} (outcome : AlertRule → Outcome)
    (uncut : d.cut = false) (size : d.outcomes.length = rules.length)
    (each : ∀ (place : Nat) (r : AlertRule), rules[place]? = some r →
      d.outcomes[place]?.join = some (outcome r)) :
    d.finished? = some (rules.map outcome) := by
  have noted : d.outcomes = (rules.map outcome).map some := by
    apply List.ext_getElem (by simp [size])
    intro place inside there
    have found := each place _ (List.getElem?_eq_getElem (size ▸ inside))
    rw [List.getElem?_eq_getElem inside] at found
    simpa using found
  rw [finished?, uncut, if_neg Bool.false_ne_true, noted, List.mapM_map]
  exact (List.mapM_pure (m := Option) (f := id)).trans (congrArg some (List.map_id _))

end Dispatch

namespace Journal

variable {kind : Observation} {lifetime : Span} {j : Journal}

/-! ### Taking up all that is there -/

/-- The journal after all tasks have been taken up. -/
def worked (j : Journal) : Journal := j.after (takeAll j.engine.tasks)

theorem engine_worked (j : Journal) : j.worked.engine = j.engine.work := j.engine_after_takeAll

theorem worked_eq_through (j : Journal) :
    ∃ happenings, j.worked = j.through happenings ∧ ∀ number, ∀ h ∈ happenings, h.Calm number := by
  refine ⟨(takeAll j.engine.tasks).map .event, (j.through_events _).symm, ?_⟩
  intro number h member
  obtain ⟨event, taken, rfl⟩ := List.mem_map.mp member
  obtain ⟨_, _, rfl⟩ := List.mem_map.mp taken
  trivial

/-- Where there are no gates, a task sets up none. -/
theorem Kept.gates_take (k : Kept kind j) (place : Nat)
    (unguarded : j.engine.outbox.gates = []) :
    (j.step (.take place)).engine.outbox.gates = [] := by
  cases found : j.engine.tasks[place]? with
  | none =>
    simp only [Journal.step, Engine.after, Engine.takeAt, found]
    exact unguarded
  | some task =>
    obtain ⟨_, _, outbox, outcome?, _, _, _, stepped, carried⟩ := k.step_take found
    rw [stepped, Engine.outbox_note]
    exact carried.alike.gates_eq_nil.mpr unguarded

theorem Kept.gates_worked (k : Kept kind j) (unguarded : j.engine.outbox.gates = []) :
    j.worked.engine.outbox.gates = [] := by
  have kept : ∀ (tasks : List Task) {j : Journal}, Kept kind j → j.engine.outbox.gates = [] →
      (j.after (takeAll tasks)).engine.outbox.gates = [] := by
    intro tasks
    induction tasks with
    | nil => exact fun _ unguarded => unguarded
    | cons task rest ih => exact fun k unguarded => ih (k.step _) (k.gates_take 0 unguarded)
  exact kept j.engine.tasks k unguarded

/-- Without gates, a piece of work has ended when all tasks have been taken up. -/
theorem Due.worked {c : Circumstances} {ticket : Ticket} {answer : Answer}
    {noted : Option Outcome} (due : Due c ticket answer noted j) (k : Kept kind j)
    (unguarded : j.engine.outbox.gates = []) :
    j.worked.engine.outcomeOf? ticket = some answer.outcome ∧
      sentFor j.worked.attempts ticket = answer.sendings := by
  obtain ⟨happenings, same, calm⟩ := j.worked_eq_through
  obtain ⟨_, after⟩ := due.through k (calm ticket.dispatch)
  rw [← same] at after
  refine after.ended_of_idle (k.gates_worked unguarded) ?_
  rw [engine_worked, Engine.tasks_work]
  intro t member
  cases member

/-- Without gates, a piece of work ends when its task is taken up. -/
theorem Due.taken {c : Circumstances} {ticket : Ticket} {answer : Answer}
    {noted : Option Outcome} (due : Due c ticket answer noted j) (k : Kept kind j)
    (unguarded : j.engine.outbox.gates = []) {place : Nat} {task : Task}
    (found : j.engine.tasks[place]? = some task) (own : task.ticket = ticket) :
    (j.step (.take place)).engine.outcomeOf? ticket = some answer.outcome ∧
      sentFor (j.step (.take place)).attempts ticket = answer.sendings := by
  obtain ⟨_, after⟩ := due.take_own k found own
  refine after.ended_of_idle (k.gates_take place unguarded) ?_
  obtain ⟨_, _, outbox, outcome?, _, _, _, stepped, _⟩ := k.step_take found
  have tasks : (j.step (.take place)).engine.tasks = j.engine.tasks.eraseIdx place := by
    rw [stepped, Engine.tasks_note]
  rw [tasks]
  intro t member same
  -- no other task has the ticket
  refine (List.nodup_cons.mp (k.takeAt_progress found).1.distinct).1 ?_
  exact List.mem_map.mpr ⟨t, List.mem_append_left _ member, same.trans own.symm⟩

/-! ### One occurrence and a list of rules -/

def withRules (j : Journal) (rules : List AlertRule) : Journal :=
  { j with engine := { j.engine with store := j.engine.store.replace rules } }

/-- The journal after these rules have met an occurrence, and after what happened then. -/
def meeting (j : Journal) (rules : List AlertRule) (o : Occurrence) (later : List Happening) :
    Journal :=
  ((j.withRules rules).next (.dispatch o)).through later

section Meeting

variable {rules : List AlertRule} {o : Occurrence} {later : List Happening}

theorem Sound.meeting (s : Sound kind lifetime j) (rules : List AlertRule) (o : Occurrence)
    (later : List Happening) : Sound kind lifetime (j.meeting rules o later) :=
  ((s.withStore _).next (.dispatch o)).through later

/-- Whatever the other rules are, the answer of each rule that is reached is due. -/
theorem Sound.due_meeting (s : Sound kind lifetime j) {place : Nat} {r : AlertRule}
    (here : rules[place]? = some r)
    (reached : place < (reachedRules j.engine.resolver j.engine.clock.elapsed rules).length)
    (calm : ∀ h ∈ later, h.Calm j.engine.dispatches.length) :
    ∃ noted, Due (j.engine.circumstances o)
      { dispatch := j.engine.dispatches.length, rule := place }
      (r.answer (j.engine.circumstances o)) noted (j.meeting rules o later) := by
  have ready := s.withStore (j.engine.store.replace rules)
  obtain ⟨_, due⟩ := ready.due_dispatch o ((reachedRules_getElem? reached).trans here)
  exact due.through (ready.kept.next (.dispatch o)) calm

/-- There is a place for the outcome of every rule that is reached. -/
theorem Sound.size_meeting (s : Sound kind lifetime j) (rules : List AlertRule)
    (o : Occurrence) (later : List Happening) :
    ∃ d, (j.meeting rules o later).engine.dispatches[j.engine.dispatches.length]? = some d ∧
      d.outcomes.length =
        (reachedRules j.engine.resolver j.engine.clock.elapsed rules).length ∧
      (d.cut = false ↔ reachedRules j.engine.resolver j.engine.clock.elapsed rules = rules) := by
  have ready := s.withStore (j.engine.store.replace rules)
  -- what comes later adds records of its own and leaves those that are there
  obtain ⟨⟨others, sizes⟩, ⟨flags, cuts⟩⟩ :=
    (ready.kept.next (.dispatch o)).records_through later
  have size : (j.meeting rules o later).engine.sizes[j.engine.dispatches.length]? =
      some (reachedRules j.engine.resolver j.engine.clock.elapsed rules).length := by
    rw [Journal.meeting, withRules, ← sizes]
    simp [Journal.next, Engine.dispatch, Engine.sizes, AlertStore.replace, length_each]
  have cut : (j.meeting rules o later).engine.cuts[j.engine.dispatches.length]? =
      some (dispatchRules j.engine.surroundings o (OccurrenceContext.ofOccurrence o)
        j.engine.clock.elapsed j.engine.resolver rules).cut := by
    rw [Journal.meeting, withRules, ← cuts]
    simp [Journal.next, Engine.dispatch, Engine.cuts, AlertStore.replace, Engine.surroundings]
  rw [Engine.sizes, List.getElem?_map, Option.map_eq_some_iff] at size
  obtain ⟨d, found, size⟩ := size
  rw [Engine.cuts, List.getElem?_map, found] at cut
  refine ⟨d, found, size, ?_⟩
  rw [Option.some.inj cut]
  exact cut_dispatchRules _ _ _ _ _ _

/-- For a rule that is not reached nothing is left, and nothing comes of it. -/
theorem Sound.unreached_meeting (s : Sound kind lifetime j) {place : Nat}
    (unreached : (reachedRules j.engine.resolver j.engine.clock.elapsed rules).length ≤ place)
    (o : Occurrence) (later : List Happening) :
    let run := j.meeting rules o later
    let ticket : Ticket := { dispatch := j.engine.dispatches.length, rule := place }
    run.engine.outcomeOf? ticket = none ∧ sentFor run.attempts ticket = [] ∧
      ∀ t ∈ run.engine.outstanding, t.ticket ≠ ticket := by
  intro run ticket
  obtain ⟨d, found, size, _⟩ := s.size_meeting rules o later
  have beyond : d.outcomes.length ≤ place := size ▸ unreached
  have unnamed : ¬ ticket.Names run.engine.sizes := by
    rintro ⟨size, there, inside⟩
    rw [Engine.sizes, List.getElem?_map, found] at there
    rw [← Option.some.inj there] at inside
    exact Nat.not_lt_of_le beyond inside
  have accounted := (s.meeting rules o later).kept.accounted
  refine ⟨?_, sentFor_eq_nil ?_, ?_⟩
  · have nowhere : d.outcomes[place]? = none := List.getElem?_eq_none beyond
    simp only [Engine.outcomeOf?, run, ticket, found, Option.bind_some, nowhere, Option.join_none]
  · intro a made own
    exact unnamed (own ▸ accounted.made a made)
  · intro t left own
    exact unnamed (own ▸ accounted.left t left)

/-- What is left, is left for rules that were reached. -/
theorem Sound.reached_of_left (s : Sound kind lifetime j) {place : Nat} {t : Task}
    (left : t ∈ (j.meeting rules o later).engine.outstanding)
    (own : t.ticket = { dispatch := j.engine.dispatches.length, rule := place }) :
    place < (reachedRules j.engine.resolver j.engine.clock.elapsed rules).length := by
  by_contra unreached
  exact (s.unreached_meeting (Nat.le_of_not_lt unreached) o later).2.2 t left own

/-- What there is of a rule, reached or not, is told by its answer. -/
theorem Sound.told_meeting (s : Sound kind lifetime j) {place : Nat} {r : AlertRule}
    (here : rules[place]? = some r) (calm : ∀ h ∈ later, h.Calm j.engine.dispatches.length) :
    let run := j.meeting rules o later
    let ticket : Ticket := { dispatch := j.engine.dispatches.length, rule := place }
    let answer := r.answer (j.engine.circumstances o)
    sentFor run.attempts ticket <+: answer.sendings ∧
      ∀ outcome, run.engine.outcomeOf? ticket = some outcome →
        outcome = answer.outcome ∧ sentFor run.attempts ticket = answer.sendings := by
  intro run ticket answer
  by_cases reached : place < (reachedRules j.engine.resolver j.engine.clock.elapsed rules).length
  · obtain ⟨noted, due⟩ := s.due_meeting (o := o) here reached calm
    exact ⟨due.part, fun outcome ended => due.ended outcome (due.outcomeOf.symm.trans ended)⟩
  · obtain ⟨unended, unsent, _⟩ := s.unreached_meeting (Nat.le_of_not_lt reached) o later
    refine ⟨unsent ▸ List.nil_prefix, ?_⟩
    intro outcome ended
    exact nomatch unended.symm.trans ended

/-- Without gates, a dispatch that reaches all rules ends with the answers of all, in their
    order. -/
theorem Sound.outcomes_meeting (s : Sound kind lifetime j)
    (all : reachedRules j.engine.resolver j.engine.clock.elapsed rules = rules)
    (calm : ∀ h ∈ later, h.Calm j.engine.dispatches.length)
    (unguarded : (j.meeting rules o later).engine.outbox.gates = []) :
    (j.meeting rules o later).worked.engine.outcomes? j.engine.dispatches.length =
      some (rules.map fun r => (r.answer (j.engine.circumstances o)).outcome) := by
  obtain ⟨taken, same, quiet⟩ := (j.meeting rules o later).worked_eq_through
  have whole : (j.meeting rules o later).worked = j.meeting rules o (later ++ taken) := by
    rw [same, Journal.meeting, Journal.meeting, through_append]
  obtain ⟨d, found, size, cut⟩ := s.size_meeting rules o (later ++ taken)
  rw [← whole] at found
  rw [all] at size
  rw [Engine.outcomes?, found]
  refine Dispatch.finished_of_each _ (cut.mpr all) size ?_
  intro place r here
  have inside := (List.getElem?_eq_some_iff.mp here).1
  obtain ⟨_, due⟩ := s.due_meeting (o := o) here (all.symm ▸ inside) calm
  have ended := (due.worked (s.meeting rules o later).kept unguarded).1
  simpa [Engine.outcomeOf?, found] using ended

end Meeting

/-- How far rules do not get in each other's way.

    Two lists of rules have a rule in common, at any places, and meet one occurrence in the
    same state, which is any that can be reached, with any cache of category names.  Then
    anything may happen that leaves alone what the rules read, in each of the runs by
    itself.  Where the common rule has ended in both runs, it has ended in the same way and
    has sent the same messages; where it has ended in one of them, it has sent the first of
    these messages in the other.

    What other rules can do is to keep a rule from being reached.  Those that are reached are
    the ones before the first with a trigger that the cache has no answer for, and they are
    all if the lifetime of what is found now ends within the range of the clock.  There is one
    outcome for every rule that is reached, and nothing comes of the others.  Without gates
    all rules that are reached end once their tasks are taken up, with outcomes and messages
    that are told from each rule alone. -/
theorem siblings_apart (settings : EngineSettings) (environment : Environment)
    (kind : Observation) (directory : Directory) (now : Stamp) (earlier : List Happening)
    (o : Occurrence) (rules others : List AlertRule) (place place' : Nat) (r : AlertRule)
    (here : rules[place]? = some r) (there : others[place']? = some r)
    (later later' : List Happening) :
    let j := (start settings environment kind directory now).through earlier
    let number := j.engine.dispatches.length
    let run := j.meeting rules o later
    let run' := j.meeting others o later'
    let ticket : Ticket := { dispatch := number, rule := place }
    let ticket' : Ticket := { dispatch := number, rule := place' }
    let reached := reachedRules j.engine.resolver j.engine.clock.elapsed rules
    let answer := r.answer (j.engine.circumstances o)
    (∀ h ∈ later, h.Calm number) → (∀ h ∈ later', h.Calm number) →
    (∃ d, run.engine.dispatches[number]? = some d ∧ d.outcomes.length = reached.length ∧
      (d.cut = false ↔ reached = rules)) ∧
    (j.engine.clock.elapsed + settings.categoryLifetime ≤ latestReading → reached = rules) ∧
    (∀ outcome', run'.engine.outcomeOf? ticket' = some outcome' →
      sentFor run.attempts ticket <+: sentFor run'.attempts ticket' ∧
      ∀ outcome, run.engine.outcomeOf? ticket = some outcome →
        outcome = outcome' ∧ sentFor run.attempts ticket = sentFor run'.attempts ticket') ∧
    (reached.length ≤ place →
      run.engine.outcomeOf? ticket = none ∧ sentFor run.attempts ticket = []) ∧
    (run.engine.outbox.gates = [] →
      (place < reached.length →
        run.worked.engine.outcomeOf? ticket = some answer.outcome ∧
          sentFor run.worked.attempts ticket = answer.sendings) ∧
      (reached = rules → run.worked.engine.outcomes? number =
        some (rules.map fun r => (r.answer (j.engine.circumstances o)).outcome))) := by
  intro j number run run' ticket ticket' reached answer calm calm'
  have s : Sound kind settings.categoryLifetime j :=
    (sound_start settings environment kind directory now).through earlier
  refine ⟨s.size_meeting rules o later, ?within, ?both, ?unreached, ?ending⟩
  case within =>
    intro within
    exact reachedRules_of_within (s.lifetime.symm ▸ within) rules
  case both =>
    intro outcome' ended'
    obtain ⟨part, told⟩ := s.told_meeting (o := o) here calm
    obtain ⟨rfl, sent'⟩ := (s.told_meeting (o := o) there calm').2 outcome' ended'
    rw [sent']
    exact ⟨part, told⟩
  case unreached =>
    intro unreached
    obtain ⟨unended, unsent, _⟩ := s.unreached_meeting unreached o later
    exact ⟨unended, unsent⟩
  case ending =>
    intro unguarded
    refine ⟨?_, fun all => s.outcomes_meeting all calm unguarded⟩
    intro reached
    obtain ⟨_, due⟩ := s.due_meeting (o := o) here reached calm
    exact due.worked (s.meeting rules o later).kept unguarded

/-- A rule by itself, and behind one with a condition that is no expression. -/
theorem siblings_apart_of_broken_sibling :
    let rule : AlertRule :=
      { triggers := [.category "joinevent"], destinations := .single "staff"
        template := { content := some "hi" } }
    let broken : AlertRule := { rule with conditions := [")"] }
    let j := start {} { tickRate := 20 } .supported
      { channels := [{ id := "1", name := "staff" }] } ⟨0⟩
    let o : Occurrence := { category := "JoinEvent" }
    let later : List Happening := [.event .reload, .event (.take 1), .event (.take 0)]
    [broken, rule][1]? = some rule ∧ (∀ h ∈ later, h.Calm 0) ∧
      (j.meeting [broken, rule] o later).engine.outcomes? 0 =
        some [.conditionError, .delivered 1 0] ∧
      sentFor (j.meeting [broken, rule] o later).attempts { dispatch := 0, rule := 1 } =
        sentFor (j.meeting [rule] o [.event (.take 0)]).attempts { dispatch := 0, rule := 0 } := by
  intro rule broken j o later
  have calm : ∀ h ∈ later, h.Calm 0 := by simp [later, Happening.Calm]
  obtain ⟨_, _, both, _⟩ := siblings_apart {} { tickRate := 20 } .supported
    { channels := [{ id := "1", name := "staff" }] } ⟨0⟩ [] o [broken, rule] [rule] 1 0 rule rfl rfl
    later [.event (.take 0)] calm (by simp [Happening.Calm])
  refine ⟨rfl, calm, by decide +kernel, ?_⟩
  obtain ⟨_, same⟩ := both (.delivered 1 0) (by decide +kernel)
  exact (same (.delivered 1 0) (by decide +kernel)).2

/-- With the longest lifetime of category names, a rule that waits for a command has sent its
    message, and does nothing behind a rule that waits for a category. -/
theorem unreached_behind_sibling :
    let rule : AlertRule :=
      { triggers := [.command "kick"], destinations := .single "staff"
        template := { content := some "hi" } }
    let sibling : AlertRule := { rule with triggers := [.category "joinevent"] }
    let j := start { categoryLifetime := 18446744073709551615 * Time.nanosPerSecond }
      { tickRate := 20 } .supported { channels := [{ id := "1", name := "staff" }] } ⟨0⟩
    let o : Occurrence :=
      { category := "ServerCommandEvent", command := some (.server "Console" "kick Steve") }
    let later : List Happening := [.event (.take 0)]
    (j.meeting [rule] o later).engine.outcomes? 0 = some [.delivered 1 0] ∧
      (j.meeting [sibling, rule] o later).engine.outcomeOf? { dispatch := 0, rule := 1 } = none ∧
      (j.meeting [sibling, rule] o later).attempts = [] := by
  decide +kernel

/-- When the work of a rule is done does not matter.

    A rule meets an occurrence in any state that can be reached, as one of any list of
    rules, and then anything may happen that leaves alone what the rule reads: tasks are
    taken up in any order, the source changes, and rules are loaded anew.  The rule is held
    against the same rule run at once, whether or not it is synchronous in the list.  What
    it sends is the beginning of what it would have sent; when it ends, it has sent all of
    it, and it ends as it would have.  Without gates there is a task to be taken up until
    then, and with this task it ends.  There is none if the dispatch does not reach the rule,
    which it does while the lifetime of what is found now ends within the range of the
    clock. -/
theorem as_if_at_once (settings : EngineSettings) (environment : Environment)
    (kind : Observation) (directory : Directory) (now : Stamp) (earlier : List Happening)
    (o : Occurrence) (rules : List AlertRule) (place : Nat) (r : AlertRule) (runAsync : Bool)
    (here : rules[place]? = some { r with runAsync := runAsync }) (later : List Happening) :
    let j := (start settings environment kind directory now).through earlier
    let number := j.engine.dispatches.length
    let base := OccurrenceContext.ofOccurrence o
    let triggers := Trigger.effective r.triggers
    let atOnce := r.run j.engine.surroundings
      (Trigger.matching triggers base.category base.command) o base j.engine.outbox.platform
    let run := j.meeting rules o later
    let ticket : Ticket := { dispatch := number, rule := place }
    let reached := reachedRules j.engine.resolver j.engine.clock.elapsed rules
    (∀ h ∈ later, h.Calm number) →
    (∀ found,
      (Trigger.resolveAll j.engine.resolver j.engine.clock.elapsed r.triggers).1 = .ok found →
      found = triggers) ∧
    j.engine.deliveries ++ sentFor run.attempts ticket <+: atOnce.2.deliveries ∧
    (∀ outcome, run.engine.outcomeOf? ticket = some outcome →
      outcome = atOnce.1 ∧
        j.engine.deliveries ++ sentFor run.attempts ticket = atOnce.2.deliveries) ∧
    (run.engine.outbox.gates = [] →
      (place < reached.length → run.engine.outcomeOf? ticket = none →
        ∃ task ∈ run.engine.tasks, task.ticket = ticket) ∧
      ∀ i task, run.engine.tasks[i]? = some task → task.ticket = ticket →
        (run.step (.take i)).engine.outcomeOf? ticket = some atOnce.1 ∧
          j.engine.deliveries ++ sentFor (run.step (.take i)).attempts ticket =
            atOnce.2.deliveries) ∧
    (j.engine.clock.elapsed + settings.categoryLifetime ≤ latestReading → reached = rules) := by
  intro j number base triggers atOnce run ticket reached calm
  have s : Sound kind settings.categoryLifetime j :=
    (sound_start settings environment kind directory now).through earlier
  let c := j.engine.circumstances o
  obtain ⟨outcome, deliveries⟩ : atOnce.1 = (r.answer c).outcome ∧
      atOnce.2.deliveries = j.engine.deliveries ++ (r.answer c).sendings :=
    r.run_eq_answer c j.engine.outbox.platform rfl
  obtain ⟨part, told⟩ := s.told_meeting (o := o) here calm
  rw [AlertRule.answer_withRunAsync] at part told
  rw [outcome, deliveries]
  refine ⟨fun _ => Trigger.effective_of_ok s.faithful, ?part, ?ended, ?ending, ?within⟩
  case part => exact (List.prefix_append_right_inj _).mpr part
  case ended =>
    intro outcome ended
    obtain ⟨same, sent⟩ := told outcome ended
    exact ⟨same, by rw [sent]⟩
  case ending =>
    intro unguarded
    constructor
    · intro inside unended
      obtain ⟨_, due⟩ := s.due_meeting (o := o) here inside calm
      exact due.awaited unguarded (due.outcomeOf.symm.trans unended)
    · intro i task found own
      have inside : place < reached.length :=
        s.reached_of_left (List.mem_append_left _ (List.mem_of_getElem? found)) own
      obtain ⟨_, due⟩ := s.due_meeting (o := o) here inside calm
      obtain ⟨same, sent⟩ := due.taken (s.meeting rules o later).kept unguarded found own
      rw [AlertRule.answer_withRunAsync] at same sent
      exact ⟨same, by rw [sent]⟩
  case within =>
    intro within
    exact reachedRules_of_within (s.lifetime.symm ▸ within) rules

/-- A synchronous rule whose list is replaced by an empty one before its message is sent. -/
theorem as_if_at_once_of_reload :
    let rule : AlertRule :=
      { triggers := [.category "joinevent"], destinations := .single "staff"
        template := { content := some "hi" } }
    let now : AlertRule := { rule with runAsync := false }
    let j := start {} { tickRate := 20 } .supported
      { channels := [{ id := "1", name := "staff" }] } ⟨0⟩
    let o : Occurrence := { category := "JoinEvent" }
    let base := OccurrenceContext.ofOccurrence o
    let atOnce := rule.run j.engine.surroundings
      (Trigger.matching (Trigger.effective rule.triggers) base.category base.command) o base
      j.engine.outbox.platform
    let later : List Happening := [.event .reload, .event (.take 0)]
    [now][0]? = some { rule with runAsync := false } ∧ (∀ h ∈ later, h.Calm 0) ∧
      (j.meeting [now] o later).engine.store.rules = [] ∧
      .delivered 1 0 = atOnce.1 ∧
      j.engine.deliveries ++
          sentFor (j.meeting [now] o later).attempts { dispatch := 0, rule := 0 } =
        atOnce.2.deliveries := by
  intro rule now j o base atOnce later
  have calm : ∀ h ∈ later, h.Calm 0 := by simp [later, Happening.Calm]
  obtain ⟨_, _, ended, _⟩ := as_if_at_once {} { tickRate := 20 } .supported
    { channels := [{ id := "1", name := "staff" }] } ⟨0⟩ [] o [now] 0 rule false rfl later calm
  exact ⟨rfl, calm, by decide +kernel, ended (.delivered 1 0) (by decide +kernel)⟩

end Journal

end EventAlerts
