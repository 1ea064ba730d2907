/-
  EventAlerts/Proofs/Engine/Journal.lean
  ======================================
  **The journal of an engine** — an engine through any run of what can happen to it and
  around it, with all attempts to send that were made, and for which piece of work.

  Tasks may be taken up in any order and between any other events, and a gate may be put
  between any two messages; so a run here is a run of tasks that work side by side.  The
  invariant `Kept` has three parts: the engine follows its host (`Following`), no two
  attempts of a piece of work are at one destination (`Accounted`), and every attempt that
  the platform saw is in the journal.

  `attempts_of_fire` is what it comes to for one occurrence in the middle of any run.
-/
import EventAlerts.Proofs.Engine.Taking

namespace EventAlerts

open EventAlerts.Time (Clock Span Stamp latestReading)

/-! ### Events -/

/-- What can happen to an engine and around it. -/
inductive EngineEvent
  /-- A category is used. -/
  | use (category : String)
  /-- A category is used while another is being initialized. -/
  | useDuring (initializing category : String)
  /-- The source has other rules from now on. -/
  | source (source : RuleSource)
  | reload
  | shutdown
  /-- A poller, if there is one, looks for registries if that is due in a stretch of time. -/
  | poll (start stop : Span)
  /-- The clock has another reading. -/
  | clock (clock : Clock)
  | fire (category : String) (o : Occurrence)
  | setCancelled (number : Nat) (value : Bool)
  /-- The task at a place is taken up. -/
  | take (place : Nat)
  /-- The platform has other channels, and other destinations fail. -/
  | platform (directory : Directory) (failing : List String)
  /-- The messages to a destination have to wait. -/
  | hold (id : String)
  /-- One message to a destination may go on. -/
  | letGo (id : String)

namespace Engine

/-- The engine after an event. -/
def after (e : Engine) : EngineEvent → Engine
  | .use category => { e with host := e.hostAfterUse category }
  | .useDuring initializing category =>
    { e with host := (e.host.createDuring initializing category).1 }
  | .source source => e.withSource source
  | .reload => e.reload.2
  | .shutdown => e.shutdown
  | .poll start stop => e.poll start stop
  | .clock clock => { e with clock := clock }
  | .fire category o => (e.fire category o).2
  | .setCancelled number value => (e.setCancelled number value).2
  | .take place => e.takeAt place
  | .platform directory failing =>
    { e with outbox := { e.outbox with platform := { e.outbox.platform with
        directory := directory, failing := failing } } }
  | .hold id => e.hold id
  | .letGo id => e.letGo id

/-- The attempts of an event, for the task that is taken up.  That there are no others is
    part of the invariant. -/
def attemptsDuring (e : Engine) : EngineEvent → List Attempt
  | .take place =>
    match e.tasks[place]? with
    | none => []
    | some task =>
      Attempt.allFor task.ticket ((e.takeAt place).deliveries.drop e.deliveries.length)
  | _ => []

theorem attemptsDuring_take {e : Engine} {place : Nat} {task : Task} {sent : List Sending}
    (found : e.tasks[place]? = some task)
    (recorded : (e.takeAt place).deliveries = e.deliveries ++ sent) :
    e.attemptsDuring (.take place) = Attempt.allFor task.ticket sent := by
  simp only [attemptsDuring, found, recorded, List.drop_left]

/-- The occurrence that an event hands over to the dispatcher: one that is fired, if the
    handler is on the registry of its category by then. -/
def handedDuring (e : Engine) : EngineEvent → List Occurrence
  | .fire category o => if handler ∈ (e.hostAfterUse category).handlersOf category then [o] else []
  | _ => []

end Engine

/-- An engine with all attempts that were made. -/
structure Journal where
  engine : Engine
  attempts : List Attempt := []

namespace Journal

/-- A fresh engine on a fresh host of a kind. -/
def start (settings : EngineSettings) (environment : Environment) (kind : Observation)
    (directory : Directory) (now : Stamp) : Journal :=
  { engine := Engine.ofParts settings environment { observation := kind } directory now }

def step (j : Journal) (event : EngineEvent) : Journal :=
  { engine := j.engine.after event
    attempts := j.attempts ++ j.engine.attemptsDuring event }

def after (j : Journal) (events : List EngineEvent) : Journal := events.foldl step j

/-- The occurrences that events hand over to the dispatcher. -/
def handed (j : Journal) : List EngineEvent → List Occurrence
  | [] => []
  | event :: rest => j.engine.handedDuring event ++ (j.step event).handed rest

/-! ### Taking up all tasks is made of events -/

/-- The events that take up all tasks in order. -/
def takeAll (tasks : List Task) : List EngineEvent := tasks.map fun _ => .take 0

theorem engine_after_takeAll (j : Journal) :
    (j.after (takeAll j.engine.tasks)).engine = j.engine.work := by
  generalize left : j.engine.tasks = tasks
  induction tasks generalizing j with
  | nil =>
    simp only [takeAll, List.map_nil, after, List.foldl_nil, Engine.work, left]
    rw [← left]
  | cons task rest ih =>
    have taken : (j.step (.take 0)).engine = { j.engine.take task with tasks := rest } := by
      simp only [step, Engine.after, Engine.takeAt, left, List.getElem?_cons_zero]
      exact Engine.take_withTasks _ _ _
    have next := ih (j.step (.take 0)) (by rw [taken])
    simp only [takeAll, List.map_cons, after, List.foldl_cons] at next ⊢
    rw [next, Engine.work, Engine.work, left, taken, List.foldl_cons]
    exact congrArg (List.foldl Engine.take · rest) (Engine.take_withTasks _ _ _).symm

/-! ### The invariant -/

/-- What holds of a journal between events. -/
structure Kept (kind : Observation) (j : Journal) : Prop where
  named : j.engine.subscription.handler = Engine.handler
  observation : j.engine.host.observation = kind
  following : Following j.engine.host j.engine.subscription
  gates : j.engine.outbox.Distinct
  accounted : Accounted j.attempts j.engine.outstanding j.engine.sizes
  recorded : j.attempts.map Attempt.sending = j.engine.deliveries

theorem kept_start (settings : EngineSettings) (environment : Environment) (kind : Observation)
    (directory : Directory) (now : Stamp) :
    Kept kind (start settings environment kind directory now) where
  named := rfl
  observation := rfl
  following := Following.start kind _ _
  gates := List.nodup_nil
  accounted := Accounted.start
  recorded := rfl

variable {kind : Observation} {j : Journal}

namespace Kept

/-! ### Events on the host -/

/-- An event on the host leaves all accounts as they are. -/
theorem withHost (k : Kept kind j) {h : Host} {s : Subscription} (following : Following h s)
    (observation : h.observation = j.engine.host.observation)
    (named : s.handler = j.engine.subscription.handler) :
    Kept kind { j with engine := { j.engine with host := h, subscription := s } } where
  named := named.trans k.named
  observation := observation.trans k.observation
  following := following
  gates := k.gates
  accounted := k.accounted
  recorded := k.recorded

theorem useDuring (k : Kept kind j) (initializing category : String) :
    Kept kind { j with engine := { j.engine with
      host := (j.engine.host.createDuring initializing category).1 } } :=
  k.withHost (k.following.createDuring initializing category)
    (k.following.observation_createDuring initializing category) rfl

theorem follow (k : Kept kind j) : Kept kind { j with engine := j.engine.follow } :=
  k.withHost k.following.register k.following.observation_register
    (j.engine.subscription.handler_register j.engine.host)

theorem shutdown (k : Kept kind j) : Kept kind { j with engine := j.engine.shutdown } :=
  k.withHost k.following.unregister k.following.observation_unregister
    (j.engine.subscription.handler_unregister j.engine.host)

theorem poll (k : Kept kind j) (start stop : Span) :
    Kept kind { j with engine := j.engine.poll start stop } :=
  k.withHost (k.following.run start stop) (k.following.observation_run start stop)
    (j.engine.subscription.handler_run j.engine.host start stop)

theorem reload (k : Kept kind j) : Kept kind { j with engine := j.engine.reload.2 } := by
  cases loaded : j.engine.source.load with
  | error err =>
    have same : j.engine.reload.2 = { j.engine with resolver := j.engine.resolver.clear } := by
      simp only [Engine.reload, loaded]
    rw [same]
    exact { k with }
  | ok rules =>
    have replaced : Kept kind { j with engine := { j.engine with
        resolver := j.engine.resolver.clear, store := j.engine.store.replace rules } } :=
      { k with }
    simp only [Engine.reload, loaded]
    split
    · exact replaced.shutdown
    · exact replaced.follow

/-! ### Fires -/

/-- A dispatch leaves tasks and makes no attempts. -/
theorem dispatch (k : Kept kind j) (o : Occurrence) :
    Kept kind { j with engine := (j.engine.dispatch o).2 } where
  named := k.named
  observation := k.observation
  following := k.following
  gates := k.gates
  accounted := by
    have left := k.accounted.dispatch (separate_each j.engine.surroundings o
      (OccurrenceContext.ofOccurrence o) j.engine.clock.elapsed j.engine.resolver
      j.engine.store.rules)
    rw [Engine.length_sizes] at left
    have sizes : (j.engine.dispatch o).2.sizes = j.engine.sizes ++
        [(dispatchRules j.engine.surroundings o (OccurrenceContext.ofOccurrence o)
          j.engine.clock.elapsed j.engine.resolver j.engine.store.rules).each.length] := by
      simp [Engine.sizes, Engine.dispatch]
    rw [sizes]
    -- the new tasks stand before those that wait
    refine left.perm ?_
    simp only [Engine.outstanding, Engine.dispatch, Outbox.waiting, List.append_assoc]
    exact List.Perm.append_left _ List.perm_append_comm
  recorded := by
    rw [k.recorded]
    exact (Recorder.deliveries_logLookups _ _).symm

theorem fire (k : Kept kind j) (category : String) (o : Occurrence) :
    Kept kind { j with engine := (j.engine.fire category o).2 } := by
  have used := k.useDuring category category
  rcases Engine.fire_cases k.following category o with fired | fired
  · rw [fired]
    exact used.dispatch o
  · rw [fired]
    exact used

/-! ### Tasks and messages -/

/-- What becomes of an engine when a task is taken up. -/
theorem takeAt_progress (k : Kept kind j) {place : Nat} {task : Task}
    (found : j.engine.tasks[place]? = some task) :
    Accounted j.attempts
      (task :: (j.engine.tasks.eraseIdx place ++ j.engine.outbox.waiting.map Task.resume))
      j.engine.sizes ∧
    ∃ outbox dispatches messages sent left,
      j.engine.takeAt place =
        { j.engine with
          tasks := j.engine.tasks.eraseIdx place, outbox := outbox, dispatches := dispatches } ∧
      Engine.SameRecords j.engine.dispatches dispatches ∧
      (idsFor j.attempts task.ticket ++ idsOf messages).Nodup ∧
      Outbox.Progress j.engine.outbox task.ticket messages outbox sent left := by
  obtain ⟨inside, rfl⟩ := List.getElem?_eq_some_iff.mp found
  have first : j.engine.outstanding.Perm (j.engine.tasks[place] ::
      (j.engine.tasks.eraseIdx place ++ j.engine.outbox.waiting.map Task.resume)) :=
    (List.getElem_cons_eraseIdx_perm inside).symm.append_right _
  have accounted := k.accounted.perm first
  refine ⟨accounted, ?_⟩
  obtain ⟨outbox, dispatches, messages, sent, left, taken, same, separate, progress⟩ :=
    Engine.take_progress (e := { j.engine with tasks := j.engine.tasks.eraseIdx place })
      k.gates (accounted.fits _ List.mem_cons_self)
  refine ⟨outbox, dispatches, messages, sent, left, ?_, same, separate, progress⟩
  simp only [Engine.takeAt, found]
  exact taken

theorem take (k : Kept kind j) (place : Nat) : Kept kind (j.step (.take place)) := by
  cases found : j.engine.tasks[place]? with
  | none =>
    have same : j.step (.take place) = j := by
      simp [step, Engine.after, Engine.takeAt, Engine.attemptsDuring, found]
    rw [same]
    exact k
  | some task =>
    obtain ⟨accounted, outbox, dispatches, messages, sent, left, engine, same, separate,
      progress⟩ := k.takeAt_progress found
    have deliveries : (j.engine.takeAt place).deliveries = j.engine.deliveries ++ sent := by
      rw [engine]
      exact progress.recorded
    have attempts := Engine.attemptsDuring_take found deliveries
    have stepped : j.step (.take place) =
        { engine := { j.engine with
            tasks := j.engine.tasks.eraseIdx place, outbox := outbox, dispatches := dispatches }
          attempts := j.attempts ++ Attempt.allFor task.ticket sent } := by
      rw [step, attempts, Engine.after, engine]
    rw [stepped]
    exact {
      named := k.named
      observation := k.observation
      following := k.following
      gates := progress.distinct
      accounted := by
        have later := accounted.progress separate progress.all progress.ticket
        rw [Engine.sizes, same.sizes]
        refine later.perm ?_
        -- what is left waits now, behind the other tasks
        have moved : (left.toList.map Task.resume ++ (j.engine.tasks.eraseIdx place ++
              j.engine.outbox.waiting.map Task.resume)).Perm
            (j.engine.tasks.eraseIdx place ++
              (left.toList ++ j.engine.outbox.waiting).map Task.resume) := by
          rw [← List.append_assoc, List.map_append, ← List.append_assoc]
          exact List.perm_append_comm.append_right _
        exact moved.trans ((progress.waiting.symm.map Task.resume).append_left _)
      recorded := by
        have sendings : (Attempt.allFor task.ticket sent).map Attempt.sending = sent := by
          simp [Attempt.allFor, Function.comp_def]
        rw [List.map_append, k.recorded, sendings]
        exact progress.recorded.symm }

theorem hold (k : Kept kind j) (id : String) :
    Kept kind { j with engine := j.engine.hold id } where
  named := k.named
  observation := k.observation
  following := k.following
  gates := k.gates.hold id
  accounted := by
    refine k.accounted.sublist ?_
    exact ((j.engine.outbox.waiting_hold_sublist id).map Task.resume).append_left _
  recorded := k.recorded

theorem letGo (k : Kept kind j) (id : String) :
    Kept kind { j with engine := j.engine.letGo id } := by
  obtain ⟨distinct, platform, waiting⟩ := Outbox.release_spec k.gates id
  exact {
    named := k.named
    observation := k.observation
    following := k.following
    gates := distinct
    accounted := by
      refine k.accounted.perm ?_
      simp only [Engine.outstanding, Engine.letGo, Option.toList_map, List.append_assoc,
        ← List.map_append]
      exact List.Perm.append_left _ (waiting.map Task.resume)
    recorded := by
      rw [k.recorded]
      exact congrArg Recorder.deliveries platform.symm }

theorem setCancelled (k : Kept kind j) (number : Nat) (value : Bool) :
    Kept kind { j with engine := (j.engine.setCancelled number value).2 } := by
  cases found : j.engine.dispatches[number]? with
  | none =>
    simp only [Engine.setCancelled, found]
    exact k
  | some d =>
    simp only [Engine.setCancelled, found]
    have same := Engine.sameRecords_set found
      { d with occurrence := d.occurrence.setCancelled value } rfl rfl rfl
    exact { k with
      accounted := by
        rw [Engine.sizes, same.sizes]
        exact k.accounted }

/-- Events that make no attempts need to be looked at in the engine only. -/
theorem of_quiet {event : EngineEvent} (quiet : j.engine.attemptsDuring event = [])
    (kept : Kept kind { j with engine := j.engine.after event }) : Kept kind (j.step event) := by
  rw [Journal.step, quiet, List.append_nil]
  exact kept

theorem step (k : Kept kind j) (event : EngineEvent) : Kept kind (j.step event) := by
  cases event with
  | use category => exact of_quiet rfl (k.useDuring category category)
  | useDuring initializing category => exact of_quiet rfl (k.useDuring initializing category)
  | source source => exact of_quiet rfl { k with }
  | reload => exact of_quiet rfl k.reload
  | shutdown => exact of_quiet rfl k.shutdown
  | poll start stop => exact of_quiet rfl (k.poll start stop)
  | clock clock => exact of_quiet rfl { k with }
  | fire category o => exact of_quiet rfl (k.fire category o)
  | setCancelled number value => exact of_quiet rfl (k.setCancelled number value)
  | take place => exact k.take place
  | platform directory failing => exact of_quiet rfl { k with }
  | hold id => exact of_quiet rfl (k.hold id)
  | letGo id => exact of_quiet rfl (k.letGo id)

theorem after (k : Kept kind j) (events : List EngineEvent) : Kept kind (j.after events) := by
  induction events generalizing j with
  | nil => exact k
  | cons event rest ih => exact ih (k.step event)

/-! ### What is handed over -/

theorem host_fire (k : Kept kind j) (category : String) (o : Occurrence) :
    (j.engine.fire category o).2.host = j.engine.hostAfterUse category := by
  rcases Engine.fire_cases k.following category o with fired | fired
  · rw [fired]
    rfl
  · rw [fired]

/-- An occurrence that meets the handler is one more dispatch, with an outcome for every rule
    that is in force, or for the first ones if it is cut short. -/
theorem dispatches_of_attached (k : Kept kind j) {category : String}
    (attached : Engine.handler ∈ (j.engine.hostAfterUse category).handlersOf category)
    (o : Occurrence) :
    ∃ d, (j.engine.fire category o).2.dispatches = j.engine.dispatches ++ [d] ∧
      d.occurrence = o ∧ d.base = OccurrenceContext.ofOccurrence o ∧
      d.outcomes.length ≤ j.engine.store.rules.length ∧
      (d.cut = false → d.outcomes.length = j.engine.store.rules.length) ∧
      (j.engine.clock.elapsed + j.engine.resolver.lifetime ≤ latestReading → d.cut = false) := by
  rw [← k.named] at attached
  rw [Engine.fire_of_attached k.following attached]
  refine ⟨_, rfl, rfl, rfl, ?_, ?_, ?_⟩
  · rw [List.length_map, length_each]
    exact (reachedRules_isPrefix _ _ _).length_le
  · intro uncut
    rw [List.length_map, length_each, (cut_dispatchRules _ _ _ _ _ _).mp uncut]
  · exact fun within => cut_of_within _ _ _ _ within _

theorem dispatches_of_unattached (k : Kept kind j) {category : String}
    (unattached : Engine.handler ∉ (j.engine.hostAfterUse category).handlersOf category)
    (o : Occurrence) :
    (j.engine.fire category o).2.dispatches = j.engine.dispatches := by
  rw [← k.named] at unattached
  rw [Engine.fire_of_unattached unattached]

/-- Dispatches are only added, one for each occurrence that is handed over. -/
theorem records_step (k : Kept kind j) (event : EngineEvent) :
    j.engine.sizes <+: (j.step event).engine.sizes ∧
      j.engine.cuts <+: (j.step event).engine.cuts ∧
      (j.step event).engine.bases =
        j.engine.bases ++ (j.engine.handedDuring event).map OccurrenceContext.ofOccurrence := by
  have unchanged : ∀ {e : Engine}, Engine.SameRecords j.engine.dispatches e.dispatches →
      j.engine.sizes <+: e.sizes ∧ j.engine.cuts <+: e.cuts ∧
        e.bases = j.engine.bases ++ [] := by
    intro e same
    have sizes : e.sizes = j.engine.sizes := same.sizes
    have cuts : e.cuts = j.engine.cuts := same.cuts
    rw [sizes, cuts, List.append_nil]
    exact ⟨List.prefix_rfl, List.prefix_rfl, same.bases⟩
  cases event with
  | fire category o =>
    by_cases attached : Engine.handler ∈ (j.engine.hostAfterUse category).handlersOf category
    · obtain ⟨d, grown, _, base, _⟩ := k.dispatches_of_attached attached o
      simp only [Journal.step, Engine.after, Engine.handedDuring, if_pos attached, Engine.sizes,
        Engine.cuts, Engine.bases, grown, List.map_append]
      exact ⟨List.prefix_append _ _, List.prefix_append _ _, by simp [base]⟩
    · have same := k.dispatches_of_unattached attached o
      simp only [Journal.step, Engine.after, Engine.handedDuring, if_neg attached]
      apply unchanged
      rw [same]
      exact Engine.SameRecords.refl _
  | reload =>
    apply unchanged
    have same : j.engine.reload.2.dispatches = j.engine.dispatches := by
      cases loaded : j.engine.source.load with
      | error err => simp only [Engine.reload, loaded]
      | ok rules =>
        simp only [Engine.reload, loaded]
        split <;> rfl
    change Engine.SameRecords j.engine.dispatches j.engine.reload.2.dispatches
    rw [same]
    exact Engine.SameRecords.refl _
  | setCancelled number value =>
    apply unchanged
    change Engine.SameRecords j.engine.dispatches (j.engine.setCancelled number value).2.dispatches
    cases found : j.engine.dispatches[number]? with
    | none =>
      simp only [Engine.setCancelled, found]
      exact Engine.SameRecords.refl _
    | some d =>
      simp only [Engine.setCancelled, found]
      exact Engine.sameRecords_set found _ rfl rfl rfl
  | take place =>
    apply unchanged
    change Engine.SameRecords j.engine.dispatches (j.engine.takeAt place).dispatches
    cases found : j.engine.tasks[place]? with
    | none =>
      simp only [Engine.takeAt, found]
      exact Engine.SameRecords.refl _
    | some task =>
      obtain ⟨_, outbox, dispatches, _, _, _, engine, same, _⟩ := k.takeAt_progress found
      rw [engine]
      exact same
  | _ => exact unchanged (Engine.SameRecords.refl _)

theorem records_after (k : Kept kind j) (events : List EngineEvent) :
    j.engine.sizes <+: (j.after events).engine.sizes ∧
      (j.after events).engine.bases =
        j.engine.bases ++ (j.handed events).map OccurrenceContext.ofOccurrence := by
  induction events generalizing j with
  | nil => exact ⟨List.prefix_rfl, (List.append_nil _).symm⟩
  | cons event rest ih =>
    obtain ⟨grown, _, more⟩ := k.records_step event
    obtain ⟨later, others⟩ := ih (k.step event)
    refine ⟨grown.trans later, ?_⟩
    rw [handed, List.map_append, ← List.append_assoc, ← more]
    exact others

end Kept

/-! ### What an occurrence causes -/

/-- The attempts at a destination for the rule at a place, caused by the dispatches from
    `first` on and before `last`. -/
def attemptsOf (j : Journal) (first last rule : Nat) (id : String) : List Attempt :=
  j.attempts.filter fun a =>
    (first ≤ a.ticket.dispatch ∧ a.ticket.dispatch < last) ∧ a.ticket.rule = rule ∧
      a.sending.destination.id = id

theorem attemptsOf_none (j : Journal) (number rule : Nat) (id : String) :
    j.attemptsOf number number rule id = [] := by
  unfold attemptsOf
  rw [List.filter_eq_nil_iff]
  intro a _ within
  simp only [decide_eq_true_eq] at within
  omega

theorem attemptsOf_one (j : Journal) (number rule : Nat) (id : String) :
    j.attemptsOf number (number + 1) rule id =
      j.attempts.filter fun a =>
        a.ticket = { dispatch := number, rule := rule } ∧ a.sending.destination.id = id := by
  unfold attemptsOf
  apply List.filter_congr
  intro a _
  obtain ⟨⟨dispatch, place⟩, sending⟩ := a
  have one : number ≤ dispatch ∧ dispatch < number + 1 ↔ dispatch = number := by omega
  simp only [Ticket.mk.injEq, one, and_assoc]

namespace Kept

/-- A piece of work makes one attempt at a destination at most. -/
theorem attemptsOf_le_one (k : Kept kind j) (number rule : Nat) (id : String) :
    (j.attemptsOf number (number + 1) rule id).length ≤ 1 := by
  have once := List.nodup_iff_count_le_one.mp
    (k.accounted.once { dispatch := number, rule := rule }) id
  have same : (idsFor j.attempts { dispatch := number, rule := rule }).count id =
      (j.attemptsOf number (number + 1) rule id).length := by
    rw [attemptsOf_one, idsFor, List.count_eq_countP, List.countP_map,
      List.countP_eq_length_filter, List.filter_filter]
    congr 1
    apply List.filter_congr
    intro a _
    rw [Bool.eq_iff_iff]
    simp [and_comm]
  rw [← same]
  exact once

/-- Attempts are made for rules that the dispatch had. -/
theorem rule_lt_of_attempt (k : Kept kind j) {number rules : Nat}
    (size : j.engine.sizes[number]? = some rules) {rule : Nat} {id : String}
    (attempted : j.attemptsOf number (number + 1) rule id ≠ []) : rule < rules := by
  obtain ⟨a, member⟩ := List.exists_mem_of_ne_nil _ attempted
  rw [attemptsOf_one] at member
  simp only [List.mem_filter, decide_eq_true_eq] at member
  obtain ⟨made, ticket, _⟩ := member
  obtain ⟨found, present, place⟩ := k.accounted.made a made
  rw [ticket] at present place
  rw [size] at present
  injection present with same
  rw [same]
  exact place

end Kept

/-- What comes of one occurrence in the middle of any run.

    It is handed over to the dispatcher once if the handler is on the registry of its
    category by then, and never if it is not.  Where the fire is the first use of the
    category, that is so if the engine observes the host and the category is not
    blacklisted.  Handed over, it is one more dispatch with an outcome for every rule that is
    in force; only if it is cut short, which it is not while the lifetime of category names
    ends within the range of the clock, rules are missing at the end.  Only later occurrences
    are handed over later.  Each rule that is in force makes one attempt at each destination
    at most for it, and each attempt is caused by an occurrence that was handed over. -/
theorem attempts_of_fire (settings : EngineSettings) (environment : Environment)
    (kind : Observation) (directory : Directory) (now : Stamp) (earlier : List EngineEvent)
    (category : String) (o : Occurrence) (later : List EngineEvent) :
    let j := (start settings environment kind directory now).after earlier
    let fired := j.step (.fire category o)
    let final := fired.after later
    let attached := Engine.handler ∈ fired.engine.host.handlersOf category
    (j.engine.host.has category = true → fired.engine.host = j.engine.host) ∧
    (j.engine.host.has category = false →
      (attached ↔ (j.engine.subscription.registered = true ∧ kind = .supported) ∧
        isBlacklisted category = false)) ∧
    (attached → ∃ d, fired.engine.dispatches = j.engine.dispatches ++ [d] ∧
      d.occurrence = o ∧ d.base = OccurrenceContext.ofOccurrence o ∧
      d.outcomes.length ≤ j.engine.store.rules.length ∧
      (d.cut = false → d.outcomes.length = j.engine.store.rules.length) ∧
      (j.engine.clock.elapsed + j.engine.resolver.lifetime ≤ latestReading → d.cut = false)) ∧
    (¬ attached → fired.engine.dispatches = j.engine.dispatches) ∧
    final.engine.bases =
      fired.engine.bases ++ (fired.handed later).map OccurrenceContext.ofOccurrence ∧
    (∀ rule id,
      let caused := final.attemptsOf j.engine.dispatches.length fired.engine.dispatches.length
        rule id
      caused.length ≤ 1 ∧ (caused ≠ [] → attached ∧ rule < j.engine.store.rules.length)) ∧
    final.attempts.map Attempt.sending = final.engine.deliveries ∧
    (∀ a ∈ final.attempts, a.ticket.dispatch < final.engine.dispatches.length) := by
  intro j fired final attached
  have k : Kept kind j := (kept_start settings environment kind directory now).after earlier
  have k' : Kept kind fired := k.step (.fire category o)
  have k'' : Kept kind final := k'.after later
  have host : fired.engine.host = j.engine.hostAfterUse category := k.host_fire category o
  have met : attached ↔ Engine.handler ∈ (j.engine.hostAfterUse category).handlersOf category :=
    iff_of_eq (congrArg (fun h => Engine.handler ∈ Host.handlersOf h category) host)
  obtain ⟨⟨others, grown⟩, bases⟩ := k'.records_after later
  refine ⟨?used, ?unused, ?handed, ?ignored, bases, ?caused, k''.recorded, ?all⟩
  case used =>
    intro present
    rw [host, Engine.hostAfterUse, Host.create, Host.createDuring_of_has present]
  case unused =>
    intro absent
    have first := k.following.mem_handlersOf_first_use absent category
    rw [k.named, k.observation, and_self] at first
    exact met.trans first
  case handed =>
    intro here
    exact k.dispatches_of_attached (met.mp here) o
  case ignored =>
    intro away
    exact k.dispatches_of_unattached (fun here => away (met.mpr here)) o
  case caused =>
    intro rule id caused
    by_cases here : attached
    · obtain ⟨d, more, _, _, fewer, _⟩ := k.dispatches_of_attached (met.mp here) o
      have dispatches : fired.engine.dispatches = j.engine.dispatches ++ [d] := more
      have one : caused = final.attemptsOf j.engine.dispatches.length
          (j.engine.dispatches.length + 1) rule id := by
        simp only [caused, dispatches, List.length_append, List.length_singleton]
      -- later dispatches stand behind this one
      have sizes : final.engine.sizes[j.engine.dispatches.length]? = some d.outcomes.length := by
        rw [← grown, Engine.sizes, dispatches, List.map_append, List.append_assoc]
        simp
      rw [one]
      exact ⟨k''.attemptsOf_le_one _ rule id, fun attempted =>
        ⟨here, Nat.lt_of_lt_of_le (k''.rule_lt_of_attempt sizes attempted) fewer⟩⟩
    · have dispatches : fired.engine.dispatches = j.engine.dispatches :=
        k.dispatches_of_unattached (fun there => here (met.mpr there)) o
      have none : caused = [] := by
        simp only [caused, dispatches]
        exact attemptsOf_none _ _ _ _
      rw [none]
      exact ⟨Nat.zero_le 1, fun attempted => absurd rfl attempted⟩
  case all =>
    intro a made
    rw [← Engine.length_sizes]
    exact (k''.accounted.made a made).dispatch_lt

/-- Two names of one channel, and rules that are loaded twice: still one attempt. -/
example :
    let rule : AlertRule :=
      { triggers := [.category "joinevent"], destinations := .list ["staff", "1"]
        template := { content := some "hi" } }
    let directory : Directory :=
      { channels := [{ id := "1", name := "general" }], mapped := [("staff", "1"), ("1", "1")] }
    ((start {} { tickRate := 20 } .supported directory ⟨0⟩).after
      [.source (.fixed [rule]), .reload, .reload, .fire "a.JoinEvent" { category := "JoinEvent" },
        .take 0]).attempts.length = 1 := by
  decide +kernel

end Journal

end EventAlerts
