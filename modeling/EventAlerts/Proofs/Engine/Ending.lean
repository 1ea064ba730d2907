/-
  EventAlerts/Proofs/Engine/Ending.lean
  =====================================
  **How pieces of work end** — a piece of work comes to the answer that was due when its
  occurrence was dispatched, whatever happens in between.

  The invariant is `Due`: what was sent for the piece of work is the beginning of the
  answer's messages; if it has ended, it has ended with the answer's outcome after all of
  them; and a task that is left for it comes to what is missing.  It is established by the
  dispatch (`due_dispatch`) and kept by everything that is calm about the dispatch
  (`Due.next`), that is, everything that leaves the clock, the platform and the
  cancellation of the occurrence as they are.  Other dispatches, reloads, gates and the
  order of tasks are all calm.
-/
import EventAlerts.Proofs.Engine.History

namespace EventAlerts

open EventAlerts.Time (Span)

def Task.answer (c : Circumstances) : Task → Answer
  | .start _ work => work.answer c
  | .resume paused => paused.answer c.failing

def Happening.Calm (number : Nat) : Happening → Prop
  | .event (.clock _) => False
  | .event (.platform _ _) => False
  | .event (.setCancelled n _) => n ≠ number
  | _ => True

namespace Engine

/-! ### Where a piece of work stands -/

/-- The circumstances of an occurrence, as they are now. -/
def circumstances (e : Engine) (o : Occurrence)
    (base : OccurrenceContext := OccurrenceContext.ofOccurrence o) : Circumstances :=
  { surroundings := e.surroundings, failing := e.outbox.platform.failing
    occurrence := o, base := base }

/-- The outcome that is noted for a piece of work, and the circumstances of its dispatch. -/
def standing? (e : Engine) (ticket : Ticket) : Option (Circumstances × Option Outcome) :=
  e.dispatches[ticket.dispatch]?.bind fun d =>
    d.outcomes[ticket.rule]?.map fun noted => (e.circumstances d.occurrence d.base, noted)

/-- The outcome of a piece of work, if it has ended. -/
def outcomeOf? (e : Engine) (ticket : Ticket) : Option Outcome :=
  e.dispatches[ticket.dispatch]?.bind fun d => d.outcomes[ticket.rule]?.join

variable {e e' : Engine} {ticket : Ticket} {c : Circumstances} {noted : Option Outcome}

theorem standing_eq_some :
    e.standing? ticket = some (c, noted) ↔
      ∃ d, e.dispatches[ticket.dispatch]? = some d ∧ d.outcomes[ticket.rule]? = some noted ∧
        e.circumstances d.occurrence d.base = c := by
  simp only [standing?, Option.bind_eq_some_iff, Option.map_eq_some_iff, Prod.mk.injEq]
  constructor
  · rintro ⟨d, found, _, there, same, rfl⟩
    exact ⟨d, found, there, same⟩
  · rintro ⟨d, found, there, same⟩
    exact ⟨d, found, noted, there, same, rfl⟩

theorem outcomeOf_of_standing (stands : e.standing? ticket = some (c, noted)) :
    e.outcomeOf? ticket = noted := by
  obtain ⟨d, found, there, _⟩ := standing_eq_some.mp stands
  simp [outcomeOf?, found, there]

theorem exists_standing (names : ticket.Names e.sizes) :
    ∃ c noted, e.standing? ticket = some (c, noted) := by
  obtain ⟨rules, sized, place⟩ := names
  rw [sizes, List.getElem?_map, Option.map_eq_some_iff] at sized
  obtain ⟨d, found, rfl⟩ := sized
  exact ⟨_, _, standing_eq_some.mpr ⟨d, found, List.getElem?_eq_getElem place, rfl⟩⟩

/-- Where a piece of work stands depends on its dispatch and on what all rules share. -/
theorem standing_congr (surroundings : e'.surroundings = e.surroundings)
    (failing : e'.outbox.platform.failing = e.outbox.platform.failing)
    (same : e'.dispatches[ticket.dispatch]? = e.dispatches[ticket.dispatch]?) :
    e'.standing? ticket = e.standing? ticket := by
  simp only [standing?, circumstances, same, surroundings, failing]

theorem standing_withOutbox {outbox : Outbox} (alike : Outbox.Alike e.outbox outbox)
    (tasks : List Task) :
    { e with tasks := tasks, outbox := outbox }.standing? ticket = e.standing? ticket := by
  apply standing_congr
  · simp only [surroundings, alike.directory]
  · exact alike.failing
  · rfl

theorem standing_note_same (stands : e.standing? ticket = some (c, none))
    (outcome? : Option Outcome) :
    (e.note ticket outcome?).standing? ticket = some (c, outcome?) := by
  cases outcome? with
  | none => exact stands
  | some outcome =>
    obtain ⟨d, found, there, rfl⟩ := standing_eq_some.mp stands
    have inside := (List.getElem?_eq_some_iff.mp there).1
    refine standing_eq_some.mpr ⟨d.finish ticket.rule outcome, ?_, ?_, rfl⟩
    · simp [note, found]
    · simp [Dispatch.finish, inside]

theorem standing_note_other {other : Ticket} (different : other ≠ ticket)
    (outcome? : Option Outcome) :
    (e.note ticket outcome?).standing? other = e.standing? other := by
  cases outcome? with
  | none => rfl
  | some outcome =>
    unfold standing?
    by_cases dispatch : ticket.dispatch = other.dispatch
    · have place : ticket.rule ≠ other.rule := by
        intro same
        obtain ⟨d, r⟩ := ticket
        obtain ⟨d', r'⟩ := other
        exact different (by rw [show d = d' from dispatch, show r = r' from same])
      cases found : e.dispatches[other.dispatch]? with
      | none => simp [note, List.getElem?_modify, found]
      | some d =>
        simp only [note, List.getElem?_modify, if_pos dispatch, found]
        change (d.outcomes.set ticket.rule (some outcome))[other.rule]?.map _ = _
        rw [List.getElem?_set_ne place]
        rfl
    · have same : (e.note ticket (some outcome)).dispatches[other.dispatch]? =
          e.dispatches[other.dispatch]? := by
        simp [note, dispatch]
      rw [same]
      rfl

/-! ### Taking up a task -/

theorem take_carried (distinct : e.outbox.Distinct) {task : Task}
    (stands : e.standing? task.ticket = some (c, noted)) :
    ∃ outbox outcome? sent left,
      e.take task = { e with outbox := outbox }.note task.ticket outcome? ∧
      Outbox.Carried e.outbox task.ticket (task.answer c) outbox outcome? sent left := by
  obtain ⟨d, found, _, rfl⟩ := standing_eq_some.mp stands
  cases task with
  | resume paused =>
    obtain ⟨sent, left, carried⟩ := Outbox.resume_carried paused distinct
    exact ⟨_, _, sent, left, rfl, carried⟩
  | start ticket work =>
    obtain ⟨sent, left, carried⟩ := Outbox.carryOut_carried ticket
      (work.prepare e.surroundings d.occurrence d.base) distinct
    refine ⟨_, _, sent, left, ?_, carried⟩
    have here : e.dispatches[ticket.dispatch]? = some d := found
    simp only [take, here]
    rfl

theorem tasks_take (e : Engine) (task : Task) : (e.take task).tasks = e.tasks := by
  obtain ⟨outbox, dispatches, same⟩ := e.take_eq task
  rw [same]

/-- Nothing is left to be taken up after all that was there has been. -/
theorem tasks_work (e : Engine) : e.work.tasks = [] := by
  have kept : ∀ (tasks : List Task) (e : Engine), (tasks.foldl take e).tasks = e.tasks := by
    intro tasks
    induction tasks with
    | nil => exact fun e => rfl
    | cons task rest ih => exact fun e => (ih (e.take task)).trans (e.tasks_take task)
  exact kept e.tasks _

/-! ### What a dispatch leaves -/

/-- Exactly the rules that leave work have tasks, under their own tickets. -/
theorem mem_tasksLeft_iff {dispatch first : Nat} {each : List Disposition} {t : Task} :
    t ∈ tasksLeft dispatch first each ↔
      ∃ place work, each[place]? = some (.left work) ∧
        t = .start { dispatch := dispatch, rule := first + place } work := by
  induction each generalizing first with
  | nil => simp [tasksLeft]
  | cons d rest ih =>
    have places : (∃ place work, (d :: rest)[place]? = some (.left work) ∧
          t = .start { dispatch := dispatch, rule := first + place } work) ↔
        (∃ work, d = .left work ∧ t = .start { dispatch := dispatch, rule := first } work) ∨
          ∃ place work, rest[place]? = some (.left work) ∧
            t = .start { dispatch := dispatch, rule := first + 1 + place } work := by
      constructor
      · rintro ⟨place, work, there, same⟩
        cases place with
        | zero => exact Or.inl ⟨work, Option.some.inj there, same⟩
        | succ place => exact Or.inr ⟨place, work, there, by rw [same]; congr 2; omega⟩
      · rintro (⟨work, rfl, same⟩ | ⟨place, work, there, same⟩)
        · exact ⟨0, work, rfl, same⟩
        · exact ⟨place + 1, work, there, by rw [same]; congr 2; omega⟩
    rw [places, ← ih]
    cases d with
    | settled outcome => simp [tasksLeft]
    | left work => simp [tasksLeft]

end Engine

namespace Journal

variable {kind : Observation} {lifetime : Span} {j : Journal}

/-- A task that is taken up, with where it stands and what it sends. -/
theorem Kept.step_take (k : Kept kind j) {place : Nat} {task : Task}
    (found : j.engine.tasks[place]? = some task) :
    ∃ c noted outbox outcome? sent left,
      j.engine.standing? task.ticket = some (c, noted) ∧
      j.step (.take place) =
        { engine := { j.engine with
            tasks := j.engine.tasks.eraseIdx place, outbox := outbox }.note task.ticket outcome?
          attempts := j.attempts ++ Attempt.allFor task.ticket sent } ∧
      Outbox.Carried j.engine.outbox task.ticket (task.answer c) outbox outcome? sent left := by
  have member := List.mem_of_getElem? found
  obtain ⟨c, noted, stands⟩ := Engine.exists_standing
    (k.accounted.left task (List.mem_append_left _ member))
  obtain ⟨outbox, outcome?, sent, left, taken, carried⟩ :=
    Engine.take_carried (e := { j.engine with tasks := j.engine.tasks.eraseIdx place })
      k.gates stands
  refine ⟨c, noted, outbox, outcome?, sent, left, stands, ?_, carried⟩
  have engine : j.engine.takeAt place = { j.engine with
      tasks := j.engine.tasks.eraseIdx place, outbox := outbox }.note task.ticket outcome? := by
    simp only [Engine.takeAt, found]
    exact taken
  have deliveries : (j.engine.takeAt place).deliveries = j.engine.deliveries ++ sent := by
    rw [engine, Engine.deliveries, Engine.outbox_note]
    exact carried.recorded
  rw [Journal.step, Engine.attemptsDuring_take found deliveries, Engine.after, engine]

/-! ### The invariant -/

/-- A piece of work on the way to an answer. -/
structure Due (c : Circumstances) (ticket : Ticket) (answer : Answer) (noted : Option Outcome)
    (j : Journal) : Prop where
  standing : j.engine.standing? ticket = some (c, noted)
  /-- What was sent is the beginning of what there is to send. -/
  part : sentFor j.attempts ticket <+: answer.sendings
  ended : ∀ outcome, noted = some outcome →
    outcome = answer.outcome ∧ sentFor j.attempts ticket = answer.sendings
  /-- A task that is left for the piece of work comes to what is missing. -/
  left : ∀ t ∈ j.engine.outstanding, t.ticket = ticket →
    noted = none ∧ (t.answer c).outcome = answer.outcome ∧
      sentFor j.attempts ticket ++ (t.answer c).sendings = answer.sendings
  /-- Without gates there is such a task, unless the piece of work has ended. -/
  awaited : j.engine.outbox.gates = [] → noted = none →
    ∃ t ∈ j.engine.tasks, t.ticket = ticket

namespace Due

variable {c : Circumstances} {ticket : Ticket} {answer : Answer} {noted : Option Outcome}

theorem outcomeOf (due : Due c ticket answer noted j) : j.engine.outcomeOf? ticket = noted :=
  Engine.outcomeOf_of_standing due.standing

theorem of_same (due : Due c ticket answer noted j) {j' : Journal}
    (standing : j'.engine.standing? ticket = j.engine.standing? ticket)
    (sent : sentFor j'.attempts ticket = sentFor j.attempts ticket)
    (fewer : ∀ t ∈ j'.engine.outstanding, t.ticket = ticket → t ∈ j.engine.outstanding)
    (kept : j'.engine.outbox.gates = [] → j.engine.outbox.gates = [] ∧
      ∀ t ∈ j.engine.tasks, t.ticket = ticket → t ∈ j'.engine.tasks) :
    Due c ticket answer noted j' where
  standing := standing.trans due.standing
  part := by
    rw [sent]
    exact due.part
  ended := by
    rw [sent]
    exact due.ended
  left := by
    rw [sent]
    intro t member own
    exact due.left t (fewer t member own) own
  awaited := by
    intro unguarded unended
    obtain ⟨before, others⟩ := kept unguarded
    obtain ⟨t, member, own⟩ := due.awaited before unended
    exact ⟨t, others t member own, own⟩

theorem of_undisturbed (due : Due c ticket answer noted j) {e : Engine}
    (same : j.engine.Undisturbed e) : Due c ticket answer noted { j with engine := e } := by
  refine due.of_same ?_ rfl ?_ ?_
  · apply Engine.standing_congr
    · simp only [Engine.surroundings, same.environment, same.clock, same.outbox]
    · rw [same.outbox]
    · rw [same.dispatches]
  · intro t member _
    rw [Engine.outstanding, same.tasks, same.outbox] at member
    exact member
  · rw [same.outbox, same.tasks]
    exact fun unguarded => ⟨unguarded, fun t member _ => member⟩

theorem dispatch_lt (due : Due c ticket answer noted j) :
    ticket.dispatch < j.engine.dispatches.length := by
  obtain ⟨d, found, _⟩ := Engine.standing_eq_some.mp due.standing
  exact (List.getElem?_eq_some_iff.mp found).1

/-- Another dispatch stands behind the ones before, and its tasks have other tickets. -/
theorem dispatch (due : Due c ticket answer noted j) (o : Occurrence) :
    Due c ticket answer noted { j with engine := (j.engine.dispatch o).2 } := by
  have early := due.dispatch_lt
  refine due.of_same ?_ rfl ?_ ?_
  · apply Engine.standing_congr
    · rfl
    · rfl
    · exact List.getElem?_append_left early
  · intro t member own
    rcases List.mem_append.mp member with task | waits
    · rcases List.mem_append.mp task with old | new
      · exact List.mem_append_left _ old
      · obtain ⟨place, work, _, rfl⟩ := Engine.mem_tasksLeft_iff.mp new
        rw [← own] at early
        exact absurd early (Nat.lt_irrefl _)
    · exact List.mem_append_right _ waits
  · exact fun unguarded => ⟨unguarded, fun t member _ => List.mem_append_left _ member⟩

/-- A new gate may keep what waits at an old one for ever. -/
theorem hold (due : Due c ticket answer noted j) (id : String) :
    Due c ticket answer noted { j with engine := j.engine.hold id } := by
  refine due.of_same ?_ rfl ?_ ?_
  · exact Engine.standing_congr rfl rfl rfl
  · intro t member _
    have fewer := (j.engine.outbox.waiting_hold_sublist id).map Task.resume
    exact (fewer.append_left j.engine.tasks).mem member
  · intro unguarded
    exact absurd (List.append_eq_nil_iff.mp unguarded).2 (List.cons_ne_nil _ _)

theorem letGo (due : Due c ticket answer noted j) (distinct : j.engine.outbox.Distinct)
    (id : String) : Due c ticket answer noted { j with engine := j.engine.letGo id } := by
  obtain ⟨_, _, waiting⟩ := Outbox.release_spec distinct id
  have alike := j.engine.outbox.alike_release id
  refine due.of_same ?_ rfl ?_ ?_
  · exact Engine.standing_withOutbox alike _
  · intro t member _
    have moved := (waiting.map Task.resume).append_left j.engine.tasks
    refine moved.mem_iff.mpr ?_
    rw [List.map_append, ← List.append_assoc, ← Option.toList_map]
    exact member
  · intro unguarded
    exact ⟨alike.gates_eq_nil.mp unguarded, fun t member _ => List.mem_append_left _ member⟩

theorem setCancelled (due : Due c ticket answer noted j) {number : Nat}
    (other : number ≠ ticket.dispatch) (value : Bool) :
    Due c ticket answer noted { j with engine := (j.engine.setCancelled number value).2 } := by
  cases found : j.engine.dispatches[number]? with
  | none =>
    simp only [Engine.setCancelled, found]
    exact due
  | some d =>
    simp only [Engine.setCancelled, found]
    refine due.of_same ?_ rfl ?_ ?_
    · apply Engine.standing_congr
      · rfl
      · rfl
      · exact List.getElem?_set_ne other
    · exact fun t member _ => member
    · exact fun unguarded => ⟨unguarded, fun t member _ => member⟩

/-! ### Tasks -/

theorem take_other (due : Due c ticket answer noted j) (k : Kept kind j) {place : Nat}
    {task : Task} (found : j.engine.tasks[place]? = some task) (other : ticket ≠ task.ticket) :
    Due c ticket answer noted (j.step (.take place)) := by
  obtain ⟨_, _, outbox, outcome?, sent, left, _, stepped, carried⟩ := k.step_take found
  obtain ⟨inside, rfl⟩ := List.getElem?_eq_some_iff.mp found
  rw [stepped]
  refine due.of_same ?_ ?_ ?_ ?_
  · rw [Engine.standing_note_other other]
    exact Engine.standing_withOutbox carried.alike _
  · exact sentFor_allFor_other j.attempts other sent
  · intro t member own
    rw [Engine.outstanding_note] at member
    rcases List.mem_append.mp member with task | resumed
    · exact List.mem_append_left _ (List.mem_of_mem_eraseIdx task)
    · obtain ⟨p, waits, rfl⟩ := List.mem_map.mp resumed
      rcases List.mem_append.mp (carried.waiting.mem_iff.mp waits) with new | old
      · exact absurd (own.symm.trans (carried.ticket p (Option.mem_toList.mp new))) other
      · exact List.mem_append_right _ (List.mem_map_of_mem old)
  · rw [Engine.outbox_note, Engine.tasks_note]
    intro unguarded
    refine ⟨carried.alike.gates_eq_nil.mp unguarded, ?_⟩
    · intro t member own
      have split := (List.getElem_cons_eraseIdx_perm inside).mem_iff.mpr member
      rcases List.mem_cons.mp split with same | behind
      · rw [same] at own
        exact absurd own.symm other
      · exact behind

theorem take_own (due : Due c ticket answer noted j) (k : Kept kind j) {place : Nat}
    {task : Task} (found : j.engine.tasks[place]? = some task) (own : task.ticket = ticket) :
    ∃ noted', Due c ticket answer noted' (j.step (.take place)) := by
  subst own
  obtain ⟨c', noted', outbox, outcome?, sent, left, stands, stepped, carried⟩ :=
    k.step_take found
  obtain ⟨rfl, rfl⟩ := Prod.mk.inj (Option.some.inj (stands.symm.trans due.standing))
  have outstanding : task ∈ j.engine.outstanding :=
    List.mem_append_left _ (List.mem_of_getElem? found)
  obtain ⟨rfl, outcome, missing⟩ := due.left task outstanding rfl
  -- all other tasks have other tickets
  have alone : task.ticket ∉
      (j.engine.tasks.eraseIdx place ++ j.engine.outbox.waiting.map Task.resume).map Task.ticket :=
    (List.nodup_cons.mp (k.takeAt_progress found).1.distinct).1
  rw [carried.all, ← List.append_assoc] at missing
  refine ⟨outcome?, ?_⟩
  rw [stepped]
  exact {
    standing := by
      apply Engine.standing_note_same
      rw [Engine.standing_withOutbox carried.alike]
      exact stands
    part := by
      rw [sentFor_allFor_same]
      exact ⟨_, missing⟩
    ended := by
      intro ending ended
      rw [sentFor_allFor_same]
      cases left with
      | some p =>
        rw [(carried.waits p rfl).1] at ended
        cases ended
      | none =>
        rw [carried.ended rfl] at ended
        exact ⟨(Option.some.inj ended).symm.trans outcome, by simpa using missing⟩
    left := by
      intro t member own
      rw [sentFor_allFor_same]
      rw [Engine.outstanding_note] at member
      rw [List.map_append] at alone
      rcases List.mem_append.mp member with task | resumed
      · exact absurd (List.mem_append_left _ (List.mem_map.mpr ⟨t, task, own⟩)) alone
      obtain ⟨p, waits, rfl⟩ := List.mem_map.mp resumed
      rcases List.mem_append.mp (carried.waiting.mem_iff.mp waits) with new | old
      · have new := Option.mem_toList.mp new
        obtain ⟨unended, same⟩ := carried.waits p new
        rw [Option.mem_def.mp new] at missing
        refine ⟨unended, ?_, missing⟩
        obtain ⟨d, _, _, rfl⟩ := Engine.standing_eq_some.mp stands
        exact same.trans outcome
      · refine absurd (List.mem_append_right _ ?_) alone
        exact List.mem_map.mpr ⟨_, List.mem_map_of_mem old, own⟩
    awaited := by
      rw [Engine.outbox_note]
      intro unguarded unended
      have none : outbox.gates = [] := unguarded
      have all := carried.waiting
      simp only [Outbox.waiting, none, List.flatMap_nil, List.nil_perm,
        List.append_eq_nil_iff, Option.toList_eq_nil_iff] at all
      have ended := carried.ended all.1
      rw [unended] at ended
      cases ended }

/-! ### Everything calm -/

theorem next (due : Due c ticket answer noted j) (k : Kept kind j) {h : Happening}
    (calm : h.Calm ticket.dispatch) : ∃ noted', Due c ticket answer noted' (j.next h) := by
  -- events that make no attempts leave the journal's attempts as they are
  have quiet : ∀ {event : EngineEvent}, j.engine.attemptsDuring event = [] →
      Due c ticket answer noted { j with engine := j.engine.after event } →
      ∃ noted', Due c ticket answer noted' (j.next (.event event)) := by
    intro event quiet kept
    refine ⟨noted, ?_⟩
    rw [Journal.next, Journal.step, quiet, List.append_nil]
    exact kept
  cases h with
  | dispatch o => exact ⟨noted, due.dispatch o⟩
  | event event =>
    cases event with
    | reload => exact quiet rfl (due.of_undisturbed j.engine.undisturbed_reload)
    | clock clock => exact calm.elim
    | platform directory failing => exact calm.elim
    | fire category o =>
      have used := due.of_undisturbed (e := { j.engine with
        host := j.engine.hostAfterUse category }) ⟨rfl, rfl, rfl, rfl, rfl⟩
      refine quiet rfl ?_
      simp only [Engine.after]
      rcases Engine.fire_cases k.following category o with fired | fired
      · rw [fired]
        exact used.dispatch o
      · rw [fired]
        exact used
    | setCancelled number value => exact quiet rfl (due.setCancelled calm value)
    | hold id => exact quiet rfl (due.hold id)
    | letGo id => exact quiet rfl (due.letGo k.gates id)
    | take place =>
      cases found : j.engine.tasks[place]? with
      | none =>
        have same : j.step (.take place) = j := by
          simp [Journal.step, Engine.after, Engine.takeAt, Engine.attemptsDuring, found]
        rw [Journal.next, same]
        exact ⟨noted, due⟩
      | some task =>
        by_cases own : ticket = task.ticket
        · exact due.take_own k found own.symm
        · exact ⟨noted, due.take_other k found own⟩
    -- the others only concern the host and the source
    | _ => exact quiet rfl (due.of_undisturbed ⟨rfl, rfl, rfl, rfl, rfl⟩)

theorem through (due : Due c ticket answer noted j) (k : Kept kind j)
    {happenings : List Happening} (calm : ∀ h ∈ happenings, h.Calm ticket.dispatch) :
    ∃ noted', Due c ticket answer noted' (j.through happenings) := by
  induction happenings generalizing j noted with
  | nil => exact ⟨noted, due⟩
  | cons h rest ih =>
    obtain ⟨first, others⟩ := List.forall_mem_cons.mp calm
    obtain ⟨_, after⟩ := due.next k first
    exact ih after (k.next h) others

/-- Without gates, a piece of work has ended if no task is left for it. -/
theorem ended_of_idle (due : Due c ticket answer noted j) (unguarded : j.engine.outbox.gates = [])
    (idle : ∀ t ∈ j.engine.tasks, t.ticket ≠ ticket) :
    j.engine.outcomeOf? ticket = some answer.outcome ∧
      sentFor j.attempts ticket = answer.sendings := by
  cases noted with
  | none =>
    obtain ⟨t, member, own⟩ := due.awaited unguarded rfl
    exact absurd own (idle t member)
  | some outcome =>
    obtain ⟨rfl, sent⟩ := due.ended outcome rfl
    exact ⟨due.outcomeOf, sent⟩

end Due

/-! ### From the dispatch on -/

/-- What all rules do at once about an occurrence that is dispatched now. -/
abbrev dispositions (j : Journal) (o : Occurrence) : List Disposition :=
  (dispatchRules j.engine.surroundings o (OccurrenceContext.ofOccurrence o)
    j.engine.clock.elapsed j.engine.resolver j.engine.store.rules).each

/-- The task of a rule in a new dispatch is the one that the rule has left. -/
theorem Kept.mem_outstanding_dispatch (k : Kept kind j) {o : Occurrence} {place : Nat} {t : Task}
    (member : t ∈ (j.next (.dispatch o)).engine.outstanding)
    (own : t.ticket = { dispatch := j.engine.dispatches.length, rule := place }) :
    ∃ work, (j.dispositions o)[place]? = some (.left work) ∧
      t = .start { dispatch := j.engine.dispatches.length, rule := place } work := by
  have early : t ∉ j.engine.outstanding := by
    intro old
    exact (k.accounted.fresh (Nat.le_of_eq j.engine.length_sizes)).2 t old own
  rcases List.mem_append.mp member with task | waits
  · rcases List.mem_append.mp task with old | new
    · exact absurd (List.mem_append_left _ old) early
    · obtain ⟨place', work, left, rfl⟩ := Engine.mem_tasksLeft_iff.mp new
      rw [Nat.zero_add] at own ⊢
      injection own with _ here
      rw [here] at left ⊢
      exact ⟨work, left, rfl⟩
  · exact absurd (List.mem_append_right _ waits) early

/-- The rules that an occurrence reaches if it is dispatched now. -/
abbrev reached (j : Journal) : List AlertRule :=
  reachedRules j.engine.resolver j.engine.clock.elapsed j.engine.store.rules

/-- What a rule does about an occurrence that is dispatched now is due as the rule's answer. -/
theorem Sound.due_dispatch (s : Sound kind lifetime j) (o : Occurrence) {place : Nat}
    {r : AlertRule} (reached : j.reached[place]? = some r) :
    ∃ noted, Due (j.engine.circumstances o)
      { dispatch := j.engine.dispatches.length, rule := place }
      (r.answer (j.engine.circumstances o)) noted (j.next (.dispatch o)) := by
  let c := j.engine.circumstances o
  let ticket : Ticket := { dispatch := j.engine.dispatches.length, rule := place }
  obtain ⟨disposition, there, leads⟩ : ∃ disposition,
      (j.dispositions o)[place]? = some disposition ∧ disposition.Leads c (r.answer c) := by
    refine ⟨_, ?_, r.leads_dispatch c⟩
    simp only [dispositions, each_dispatchRules _ _ _ _ s.faithful, List.getElem?_map, reached]
    rfl
  have standing : (j.next (.dispatch o)).engine.standing? ticket =
      some (c, Engine.outcomeAtOnce? disposition) := by
    let dispatched : Dispatch :=
      { occurrence := o, base := OccurrenceContext.ofOccurrence o
        outcomes := (j.dispositions o).map Engine.outcomeAtOnce?
        cut := (dispatchRules j.engine.surroundings o (OccurrenceContext.ofOccurrence o)
          j.engine.clock.elapsed j.engine.resolver j.engine.store.rules).cut }
    have noted : dispatched.outcomes[place]? = some (Engine.outcomeAtOnce? disposition) := by
      simp only [dispatched, List.getElem?_map, there, Option.map_some]
    exact Engine.standing_eq_some.mpr ⟨dispatched, List.getElem?_concat_length, noted, rfl⟩
  have unsent : sentFor (j.next (.dispatch o)).attempts ticket = [] :=
    sentFor_eq_nil (s.kept.accounted.fresh (Nat.le_of_eq j.engine.length_sizes)).1
  have own : ∀ t ∈ (j.next (.dispatch o)).engine.outstanding, t.ticket = ticket →
      ∃ work, disposition = .left work ∧ t = .start ticket work := by
    intro t member same
    obtain ⟨work, left, rfl⟩ := s.kept.mem_outstanding_dispatch member same
    exact ⟨work, Option.some.inj (there.symm.trans left), rfl⟩
  cases disposition with
  | settled outcome =>
    have answer : r.answer c = { outcome := outcome } := leads
    refine ⟨some outcome, standing, ?_, ?_, ?_, ?_⟩
    · rw [unsent]
      exact List.nil_prefix
    · rintro _ ⟨⟩
      rw [unsent, answer]
      exact ⟨rfl, rfl⟩
    · intro t member same
      obtain ⟨_, left, _⟩ := own t member same
      cases left
    · rintro _ ⟨⟩
  | left work =>
    have answer : work.answer c = r.answer c := leads
    refine ⟨none, standing, ?_, ?_, ?_, ?_⟩
    · rw [unsent]
      exact List.nil_prefix
    · rintro _ ⟨⟩
    · intro t member same
      obtain ⟨_, ⟨rfl⟩, rfl⟩ := own t member same
      rw [unsent]
      exact ⟨rfl, congrArg Answer.outcome answer, congrArg Answer.sendings answer⟩
    · intro _ _
      refine ⟨.start ticket work, List.mem_append_right _ ?_, rfl⟩
      refine Engine.mem_tasksLeft_iff.mpr ⟨place, work, there, ?_⟩
      rw [Nat.zero_add]

end Journal

end EventAlerts
