/-
  EventAlerts/Proofs/Engine/Reading.lean
  ======================================
  **Nothing is read later** — a synchronous rule has read everything when the dispatch
  returns, so nothing that happens to the occurrence, to the clock or to the rules gets
  into its outcome or its messages.

  What carries this is that all its tasks are ready (`Task.IsReady`): they send messages
  that are there already, and what they come to depends on nothing but the destinations
  that fail (`Task.answer_of_isReady`).  So a piece of work with ready tasks is on the way
  to its answer under any circumstances in which the same destinations fail.  `Due` says
  that it is for those of now.  `Ready` lets these circumstances change, which they do with
  every event that `Happening.Calm` leaves out.
-/
import EventAlerts.Proofs.Engine.Isolation
import EventAlerts.Proofs.Engine.Urgency

namespace EventAlerts

open EventAlerts.Rule (Trigger)
open EventAlerts.Time (Span Stamp latestReading)

/-- Whether a task only sends messages that have been worked out. -/
def Task.IsReady : Task → Prop
  | .start _ (.rule _ _) => False
  | .start _ (.messages _) => True
  | .resume _ => True

theorem Task.answer_of_isReady {t : Task} (ready : t.IsReady) {c c' : Circumstances}
    (failing : c'.failing = c.failing) : t.answer c' = t.answer c := by
  cases t with
  | resume paused => rw [answer, answer, failing]
  | start ticket work =>
    cases work with
    | rule r matched => exact ready.elim
    | messages sendings =>
      rw [answer, answer, Work.answer, Work.answer, failing]
      rfl

/-- Whether something leaves the destinations failing that do. -/
def Happening.KeepsFailing (failing : List String) : Happening → Prop
  | .event (.platform _ now) => now = failing
  | _ => True

namespace Journal

variable {kind : Observation} {lifetime : Span} {j : Journal}

/-- Events that make no attempts only concern the engine. -/
theorem next_of_quiet {event : EngineEvent} (quiet : j.engine.attemptsDuring event = []) :
    j.next (.event event) = { j with engine := j.engine.after event } := by
  rw [next, step, quiet, List.append_nil]

/-! ### New tasks -/

theorem mem_tasks_of_dispatch {e : Engine} {o : Occurrence} {t : Task}
    (member : t ∈ (e.dispatch o).2.tasks) :
    t ∈ e.tasks ∨ t.ticket.dispatch = e.dispatches.length := by
  rcases List.mem_append.mp member with old | new
  · exact Or.inl old
  · obtain ⟨place, work, rfl, _⟩ := Engine.mem_tasksLeft new
    exact Or.inr rfl

/-- A new task is one of a new dispatch, or messages that have waited at a gate. -/
theorem Kept.mem_tasks_next (k : Kept kind j) {h : Happening} {t : Task}
    (member : t ∈ (j.next h).engine.tasks) :
    t ∈ j.engine.tasks ∨ (∃ paused, t = .resume paused) ∨
      t.ticket.dispatch = j.engine.dispatches.length := by
  cases h with
  | dispatch o =>
    rcases mem_tasks_of_dispatch member with old | new
    · exact Or.inl old
    · exact Or.inr (Or.inr new)
  | event event =>
    cases event with
    | reload =>
      have same : j.engine.reload.2.tasks = j.engine.tasks := j.engine.undisturbed_reload.tasks
      exact Or.inl (same ▸ member)
    | fire category o =>
      rw [next_of_quiet rfl, Engine.after] at member
      rcases Engine.fire_cases k.following category o with fired | fired
      · rw [fired] at member
        rcases mem_tasks_of_dispatch member with old | new
        · exact Or.inl old
        · exact Or.inr (Or.inr new)
      · rw [fired] at member
        exact Or.inl member
    | setCancelled number value =>
      have same : (j.engine.setCancelled number value).2.tasks = j.engine.tasks := by
        unfold Engine.setCancelled
        split <;> rfl
      exact Or.inl (same ▸ member)
    | letGo id =>
      rcases List.mem_append.mp member with old | new
      · exact Or.inl old
      · obtain ⟨paused, _, resumed⟩ := Option.map_eq_some_iff.mp (Option.mem_toList.mp new)
        exact Or.inr (Or.inl ⟨paused, resumed.symm⟩)
    | take place =>
      change t ∈ (j.engine.takeAt place).tasks at member
      unfold Engine.takeAt at member
      split at member
      · exact Or.inl member
      · rw [Engine.tasks_take] at member
        exact Or.inl (List.mem_of_mem_eraseIdx member)
    | _ => exact Or.inl member

/-! ### The invariant -/

/-- A piece of work on the way to an answer, with nothing left to read. -/
structure Ready (failing : List String) (ticket : Ticket) (answer : Answer)
    (noted : Option Outcome) (j : Journal) : Prop where
  /-- Whatever else the circumstances are. -/
  due : ∃ c, c.failing = failing ∧ Due c ticket answer noted j
  tasks : ∀ t ∈ j.engine.tasks, t.ticket = ticket → t.IsReady

namespace Ready

variable {failing : List String} {ticket : Ticket} {answer : Answer} {noted : Option Outcome}

theorem outstanding (ready : Ready failing ticket answer noted j) :
    ∀ t ∈ j.engine.outstanding, t.ticket = ticket → t.IsReady := by
  intro t member own
  rcases List.mem_append.mp member with task | waits
  · exact ready.tasks t task own
  · obtain ⟨paused, _, rfl⟩ := List.mem_map.mp waits
    trivial

/-- Other circumstances lead to the same answer. -/
theorem reread (ready : Ready failing ticket answer noted j) {e : Engine} {d d' : Dispatch}
    (before : j.engine.dispatches[ticket.dispatch]? = some d)
    (found : e.dispatches[ticket.dispatch]? = some d') (outcomes : d'.outcomes = d.outcomes)
    (reach : e.outbox.platform.failing = failing) (tasks : e.tasks = j.engine.tasks)
    (gates : e.outbox.gates = j.engine.outbox.gates) :
    Ready failing ticket answer noted { j with engine := e } := by
  obtain ⟨c, same, due⟩ := ready.due
  have waiting : e.outstanding = j.engine.outstanding := by
    simp only [Engine.outstanding, Outbox.waiting, tasks, gates]
  refine ⟨⟨e.circumstances d'.occurrence d'.base, reach, ?_⟩, ?_⟩
  · exact {
      standing := by
        obtain ⟨there, found', place, _⟩ := Engine.standing_eq_some.mp due.standing
        obtain rfl := Option.some.inj (before.symm.trans found')
        rw [← outcomes] at place
        exact Engine.standing_eq_some.mpr ⟨d', found, place, rfl⟩
      part := due.part
      ended := due.ended
      left := by
        intro t member own
        have here : t ∈ j.engine.outstanding := waiting ▸ member
        rw [Task.answer_of_isReady (ready.outstanding t here own) (reach.trans same.symm)]
        exact due.left t here own
      awaited := by
        intro unguarded unended
        obtain ⟨t, member, own⟩ := due.awaited (gates.symm.trans unguarded) unended
        exact ⟨t, tasks.symm ▸ member, own⟩ }
  · intro t member own
    exact ready.tasks t (tasks ▸ member) own

theorem next (ready : Ready failing ticket answer noted j) (k : Kept kind j) {h : Happening}
    (keeps : h.KeepsFailing failing) :
    ∃ noted', Ready failing ticket answer noted' (j.next h) := by
  obtain ⟨c, same, due⟩ := ready.due
  obtain ⟨d, found, _, here⟩ := Engine.standing_eq_some.mp due.standing
  have reach : j.engine.outbox.platform.failing = failing := by
    rw [← same, ← here]
    rfl
  -- in a calm step the circumstances stay, and only the tasks have to be looked at
  by_cases calm : h.Calm ticket.dispatch
  · obtain ⟨noted', after⟩ := due.next k calm
    refine ⟨noted', ⟨c, same, after⟩, ?_⟩
    intro t member own
    rcases k.mem_tasks_next member with old | ⟨paused, rfl⟩ | new
    · exact ready.tasks t old own
    · trivial
    · rw [own] at new
      exact absurd new (Nat.ne_of_lt due.dispatch_lt)
  -- what is left changes the circumstances and makes no attempts
  refine ⟨noted, ?_⟩
  cases h with
  | dispatch o => exact absurd trivial calm
  | event event =>
    cases event with
    | clock clock =>
      rw [next_of_quiet rfl]
      exact ready.reread found found rfl reach rfl rfl
    | platform directory now =>
      rw [next_of_quiet rfl]
      exact ready.reread found found rfl keeps rfl rfl
    | setCancelled number value =>
      obtain rfl : number = ticket.dispatch := Decidable.of_not_not calm
      have inside := (List.getElem?_eq_some_iff.mp found).1
      have cancelled : (j.engine.setCancelled ticket.dispatch value).2 = { j.engine with
          dispatches := j.engine.dispatches.set ticket.dispatch
            { d with occurrence := d.occurrence.setCancelled value } } := by
        simp only [Engine.setCancelled, found]
      rw [next_of_quiet rfl, Engine.after, cancelled]
      exact ready.reread found (List.getElem?_set_self inside) rfl reach rfl rfl
    | _ => exact absurd trivial calm

theorem through (ready : Ready failing ticket answer noted j) (k : Kept kind j)
    {happenings : List Happening} (keep : ∀ h ∈ happenings, h.KeepsFailing failing) :
    ∃ noted', Ready failing ticket answer noted' (j.through happenings) := by
  induction happenings generalizing j noted with
  | nil => exact ⟨noted, ready⟩
  | cons h rest ih =>
    obtain ⟨first, others⟩ := List.forall_mem_cons.mp keep
    obtain ⟨_, after⟩ := ready.next k first
    exact ih after (k.next h) others

end Ready

/-! ### From the dispatch on -/

section Dispatch

variable {o : Occurrence} {place : Nat} {disposition : Disposition}

theorem outcomeOf_dispatch (there : (j.dispositions o)[place]? = some disposition) :
    (j.next (.dispatch o)).engine.outcomeOf?
        { dispatch := j.engine.dispatches.length, rule := place } =
      Engine.outcomeAtOnce? disposition := by
  have last : (j.next (.dispatch o)).engine.dispatches[j.engine.dispatches.length]? =
      some { occurrence := o, base := OccurrenceContext.ofOccurrence o
             outcomes := (j.dispositions o).map Engine.outcomeAtOnce?
             cut := (dispatchRules j.engine.surroundings o (OccurrenceContext.ofOccurrence o)
               j.engine.clock.elapsed j.engine.resolver j.engine.store.rules).cut } :=
    List.getElem?_concat_length
  simp only [Engine.outcomeOf?, last, Option.bind_some, List.getElem?_map, there,
    Option.map_some, Option.join_some]

theorem mem_tasks_dispatch {work : Work} (there : (j.dispositions o)[place]? = some (.left work)) :
    .start { dispatch := j.engine.dispatches.length, rule := place } work ∈
      (j.next (.dispatch o)).engine.tasks := by
  refine List.mem_append_right _ (Engine.mem_tasksLeft_iff.mpr ⟨place, work, there, ?_⟩)
  rw [Nat.zero_add]

variable {r : AlertRule} (reached : j.reached[place]? = some r)
  (forced : forcesSync (OccurrenceContext.ofOccurrence o).category
    (Trigger.effective r.triggers) = true)
include reached forced

/-- A rule that has to be synchronous is prepared by the dispatch. -/
theorem Sound.disposition_of_forced (s : Sound kind lifetime j) :
    (j.dispositions o)[place]? =
      some (r.prepare j.engine.surroundings (r.accepting (OccurrenceContext.ofOccurrence o)) o
        (OccurrenceContext.ofOccurrence o)).result.disposition := by
  simp only [dispositions, each_dispatchRules _ _ _ _ s.faithful, List.getElem?_map, reached,
    Option.map_some, AlertRule.dispatch_of_forced forced]
  rfl

theorem Sound.ready_dispatch (s : Sound kind lifetime j) :
    ∃ noted, Ready j.engine.outbox.platform.failing
      { dispatch := j.engine.dispatches.length, rule := place }
      (r.answer (j.engine.circumstances o)) noted (j.next (.dispatch o)) := by
  obtain ⟨noted, due⟩ := s.due_dispatch o reached
  refine ⟨noted, ⟨_, rfl, due⟩, ?_⟩
  intro t member own
  obtain ⟨work, left, rfl⟩ := s.kept.mem_outstanding_dispatch (List.mem_append_left _ member) own
  have disposed := Option.some.inj ((s.disposition_of_forced reached forced).symm.trans left)
  -- what preparing leaves is messages
  cases prepared : (r.prepare j.engine.surroundings
      (r.accepting (OccurrenceContext.ofOccurrence o)) o
      (OccurrenceContext.ofOccurrence o)).result with
  | skip outcome =>
    rw [prepared] at disposed
    cases disposed
  | deliver sendings =>
    rw [prepared] at disposed
    obtain rfl := Disposition.left.inj disposed
    trivial

end Dispatch

theorem Sound.disposition_meeting (s : Sound kind lifetime j) {rules : List AlertRule}
    {o : Occurrence} {place : Nat} {r : AlertRule} (here : rules[place]? = some r)
    (reached : place < (reachedRules j.engine.resolver j.engine.clock.elapsed rules).length)
    (forced : forcesSync (OccurrenceContext.ofOccurrence o).category
      (Trigger.effective r.triggers) = true) :
    ((j.withRules rules).dispositions o)[place]? =
      some (r.prepare j.engine.surroundings (r.accepting (OccurrenceContext.ofOccurrence o)) o
        (OccurrenceContext.ofOccurrence o)).result.disposition :=
  (s.withStore (j.engine.store.replace rules)).disposition_of_forced (o := o)
    ((reachedRules_getElem? reached).trans here) forced

theorem Sound.ready_meeting (s : Sound kind lifetime j) {rules : List AlertRule}
    {o : Occurrence} {later : List Happening} {place : Nat} {r : AlertRule}
    (here : rules[place]? = some r)
    (reached : place < (reachedRules j.engine.resolver j.engine.clock.elapsed rules).length)
    (forced : forcesSync (OccurrenceContext.ofOccurrence o).category
      (Trigger.effective r.triggers) = true)
    (keep : ∀ h ∈ later, h.KeepsFailing j.engine.outbox.platform.failing) :
    ∃ noted, Ready j.engine.outbox.platform.failing
      { dispatch := j.engine.dispatches.length, rule := place }
      (r.answer (j.engine.circumstances o)) noted (j.meeting rules o later) := by
  have ready := s.withStore (j.engine.store.replace rules)
  obtain ⟨_, prepared⟩ :=
    ready.ready_dispatch (o := o) ((reachedRules_getElem? reached).trans here) forced
  exact prepared.through (ready.kept.next (.dispatch o)) keep

/-- What there is of a rule that has to be synchronous, reached or not, is told by its answer,
    and is ready. -/
theorem Sound.told_of_forced (s : Sound kind lifetime j) {rules : List AlertRule}
    {o : Occurrence} {later : List Happening} {place : Nat} {r : AlertRule}
    (here : rules[place]? = some r)
    (forced : forcesSync (OccurrenceContext.ofOccurrence o).category
      (Trigger.effective r.triggers) = true)
    (keep : ∀ h ∈ later, h.KeepsFailing j.engine.outbox.platform.failing) :
    let run := j.meeting rules o later
    let ticket : Ticket := { dispatch := j.engine.dispatches.length, rule := place }
    let answer := r.answer (j.engine.circumstances o)
    (∀ t ∈ run.engine.outstanding, t.ticket = ticket → t.IsReady) ∧
      sentFor run.attempts ticket <+: answer.sendings ∧
      ∀ outcome, run.engine.outcomeOf? ticket = some outcome →
        outcome = answer.outcome ∧ sentFor run.attempts ticket = answer.sendings := by
  intro run ticket answer
  by_cases reached : place < (reachedRules j.engine.resolver j.engine.clock.elapsed rules).length
  · obtain ⟨noted, ready⟩ := s.ready_meeting (o := o) here reached forced keep
    obtain ⟨_, _, due⟩ := ready.due
    exact ⟨ready.outstanding, due.part,
      fun outcome ended => due.ended outcome (due.outcomeOf.symm.trans ended)⟩
  · obtain ⟨unended, unsent, nothing⟩ := s.unreached_meeting (Nat.le_of_not_lt reached) o later
    refine ⟨fun t left own => absurd own (nothing t left), unsent ▸ List.nil_prefix, ?_⟩
    intro outcome ended
    exact nomatch unended.symm.trans ended

/-- Urgent categories are never read after the dispatch.

    A rule meets an occurrence that it matches, in any state that can be reached and as one
    of any list of rules; it may want to be run later.  Its triggers are given as texts, and
    the category of the occurrence is urgent by its lower case form, or one of the categories
    that the triggers are resolved to is.  For triggers that are given otherwise this is told
    by the case of letters.  Then the rule is prepared by the dispatch, if the dispatch reaches
    it: it has ended by then, or its messages are ready.  No task is ever left for it that
    reads anything.  So whatever happens later, be it to the cancellation of the occurrence,
    to the clock, to the rules or to the channels of the platform, as long as the same
    destinations fail, the rule sends what it would have sent at once, and ends as it would
    have.  Without gates there is a task to be taken up until then, and with this task it
    ends.  The rule is reached if the lifetime of what is found now ends within the range of
    the clock. -/
theorem urgent_is_read_at_dispatch (settings : EngineSettings) (environment : Environment)
    (kind : Observation) (directory : Directory) (now : Stamp) (earlier : List Happening)
    (o : Occurrence) (rules : List AlertRule) (place : Nat) (r : AlertRule)
    (here : rules[place]? = some r) (later : List Happening) :
    let j := (start settings environment kind directory now).through earlier
    let number := j.engine.dispatches.length
    let base := OccurrenceContext.ofOccurrence o
    let triggers := Trigger.effective r.triggers
    let matched := Trigger.matching triggers base.category base.command
    let prepared := r.prepare j.engine.surroundings matched o base
    let atOnce := r.run j.engine.surroundings matched o base j.engine.outbox.platform
    let dispatched := j.meeting rules o []
    let run := j.meeting rules o later
    let ticket : Ticket := { dispatch := number, rule := place }
    let reached := reachedRules j.engine.resolver j.engine.clock.elapsed rules
    matched ≠ [] →
    ((∃ raws, r.triggers = Trigger.parseAll raws ∧
        ((∃ record : Record, o = record.toOccurrence ∧
            Text.lower record.simpleName = "blockbreakevent") ∨
          ∃ name, Trigger.category name ∈ triggers ∧ Text.lower name = "blockbreakevent")) ∨
      ∃ name, Trigger.category name ∈ triggers ∧
        sameButCase name "BlockBreakEvent" = true) →
    (∀ h ∈ later, h.KeepsFailing j.engine.outbox.platform.failing) →
    (∀ found,
      (Trigger.resolveAll j.engine.resolver j.engine.clock.elapsed r.triggers).1 = .ok found →
      found = triggers) ∧
    (place < reached.length →
      (∀ outcome, prepared.result = .skip outcome →
        dispatched.engine.outcomeOf? ticket = some outcome) ∧
      (∀ sendings, prepared.result = .deliver sendings →
        .start ticket (.messages sendings) ∈ dispatched.engine.tasks)) ∧
    (∀ t ∈ run.engine.outstanding, t.ticket = ticket → t.IsReady) ∧
    j.engine.deliveries ++ sentFor run.attempts ticket <+: atOnce.2.deliveries ∧
    (∀ outcome, run.engine.outcomeOf? ticket = some outcome →
      outcome = atOnce.1 ∧
        j.engine.deliveries ++ sentFor run.attempts ticket = atOnce.2.deliveries) ∧
    (run.engine.outbox.gates = [] →
      (place < reached.length → run.engine.outcomeOf? ticket = none →
        ∃ task ∈ run.engine.tasks, task.ticket = ticket) ∧
      ∀ i task, run.engine.tasks[i]? = some task → task.ticket = ticket →
        (run.step (.take i)).engine.outcomeOf? ticket = some atOnce.1 ∧
          j.engine.deliveries ++ sentFor (run.step (.take i)).attempts ticket =
            atOnce.2.deliveries) ∧
    (j.engine.clock.elapsed + settings.categoryLifetime ≤ latestReading → reached = rules) := by
  intro j number base triggers matched prepared atOnce dispatched run ticket reached accepted urgent
    keep
  have s : Sound kind settings.categoryLifetime j :=
    (sound_start settings environment kind directory now).through earlier
  let c := j.engine.circumstances o
  have forced : forcesSync base.category triggers = true := by
    have form : Text.lower "BlockBreakEvent" = "blockbreakevent" := by decide +kernel
    have listed : "BlockBreakEvent" ∈ urgentCategories := List.mem_singleton_self _
    simp only [matched, triggers] at accepted urgent ⊢
    rcases urgent with ⟨raws, built, urgent⟩ | ⟨name, named, same⟩
    · rw [built] at accepted urgent ⊢
      rcases urgent with ⟨record, recorded, same⟩ | ⟨name, named, same⟩
      · simp only [base, recorded] at accepted ⊢
        exact forcesSync_of_record listed (same.trans form.symm) accepted
      · exact forcesSync_of_trigger listed named (same.trans form.symm) _
    · exact forcesSync_of_named named (List.any_eq_true.mpr ⟨_, listed, same⟩) _
  obtain ⟨outcome, deliveries⟩ : atOnce.1 = (r.answer c).outcome ∧
      atOnce.2.deliveries = j.engine.deliveries ++ (r.answer c).sendings :=
    r.run_eq_answer c j.engine.outbox.platform rfl
  obtain ⟨ready, part, told⟩ := s.told_of_forced (o := o) here forced keep
  rw [outcome, deliveries]
  refine ⟨fun _ => Trigger.effective_of_ok s.faithful, ?prepared, ready, ?part, ?ended, ?ending,
    ?within⟩
  case prepared =>
    intro inside
    have disposed := s.disposition_meeting (o := o) here inside forced
    constructor
    · intro outcome skip
      have skipped : (r.prepare j.engine.surroundings (r.accepting base) o base).result =
          .skip outcome := skip
      rw [skipped] at disposed
      exact outcomeOf_dispatch disposed
    · intro sendings deliver
      have delivered : (r.prepare j.engine.surroundings (r.accepting base) o base).result =
          .deliver sendings := deliver
      rw [delivered] at disposed
      exact mem_tasks_dispatch disposed
  case part => exact (List.prefix_append_right_inj _).mpr part
  case ended =>
    intro outcome ended
    obtain ⟨same, sent⟩ := told outcome ended
    exact ⟨same, by rw [sent]⟩
  case ending =>
    intro unguarded
    constructor
    · intro inside unended
      obtain ⟨_, prepared⟩ := s.ready_meeting (o := o) here inside forced keep
      obtain ⟨_, _, due⟩ := prepared.due
      exact due.awaited unguarded (due.outcomeOf.symm.trans unended)
    · intro i task found own
      have inside : place < reached.length :=
        s.reached_of_left (List.mem_append_left _ (List.mem_of_getElem? found)) own
      obtain ⟨_, prepared⟩ := s.ready_meeting (o := o) here inside forced keep
      obtain ⟨_, _, due⟩ := prepared.due
      obtain ⟨same, sent⟩ := due.taken (s.meeting rules o later).kept unguarded found own
      exact ⟨same, by rw [sent]⟩
  case within =>
    intro within
    exact reachedRules_of_within (s.lifetime.symm ▸ within) rules

/-- A category with a Kelvin sign, and a rule that looks at the cancellation and wants to be
    run later: the occurrence is cancelled before the message is sent. -/
theorem urgent_is_read_of_kelvinSign :
    let rule : AlertRule :=
      { triggers := Trigger.parseAll ["BlockBreakEvent"], runAsync := true, ignoreCancelled := true
        conditions := ["not event.cancelled"], destinations := .single "staff"
        template := { content := some "hi" } }
    let record : Record := { category := "world.Bloc\u212aBreakEvent", cancelled := some false }
    let j := start {} { tickRate := 20 } .supported
      { channels := [{ id := "1", name := "staff" }] } ⟨0⟩
    let o := record.toOccurrence
    let base := OccurrenceContext.ofOccurrence o
    let matched :=
      Trigger.matching (Trigger.effective rule.triggers) base.category base.command
    let atOnce := rule.run j.engine.surroundings matched o base j.engine.outbox.platform
    let later : List Happening :=
      [.event (.setCancelled 0 true), .event (.clock (Time.Clock.startingAt ⟨1⟩)), .event .reload,
        .event (.take 0)]
    [rule][0]? = some rule ∧ matched ≠ [] ∧ isUrgent base.category = false ∧
      Text.lower record.simpleName = "blockbreakevent" ∧ (∀ h ∈ later, h.KeepsFailing []) ∧
      .delivered 1 0 = atOnce.1 ∧
      j.engine.deliveries ++
          sentFor (j.meeting [rule] o later).attempts { dispatch := 0, rule := 0 } =
        atOnce.2.deliveries := by
  intro rule record j o base matched atOnce later
  have accepted : matched ≠ [] := by decide +kernel
  have lowered : Text.lower record.simpleName = "blockbreakevent" := by decide +kernel
  have keep : ∀ h ∈ later, h.KeepsFailing [] := by simp [later, Happening.KeepsFailing]
  obtain ⟨_, _, _, _, ended, _⟩ := urgent_is_read_at_dispatch {} { tickRate := 20 } .supported
    { channels := [{ id := "1", name := "staff" }] } ⟨0⟩ [] o [rule] 0 rule rfl later
    accepted (Or.inl ⟨["BlockBreakEvent"], rfl, Or.inl ⟨record, rfl, lowered⟩⟩) keep
  exact ⟨rfl, accepted, by decide +kernel, lowered, keep,
    ended (.delivered 1 0) (by decide +kernel)⟩

end Journal

end EventAlerts
