/-
  EventAlerts/Proofs/Engine/Taking.lean
  =====================================
  **Taking up tasks** — what changes in an engine when a task is taken up.

  A task touches the outbox and the outcomes of dispatches, and nothing else
  (`take_eq`).  The dispatches keep their contexts and the number of their rules, and
  stay cut short or not, whatever is noted in them.  All that is left to be done stands
  in the engine's tasks or waits at a gate; together this is `outstanding`.
-/
import EventAlerts.Proofs.Engine.Dispatching
import Mathlib.Data.List.Perm.Basic

namespace EventAlerts

open EventAlerts.Rule (Resolver)

namespace Engine

/-! ### What is left, and what dispatches are known by -/

/-- The tasks that are left, those that wait at gates behind the others. -/
def outstanding (e : Engine) : List Task := e.tasks ++ e.outbox.waiting.map Task.resume

/-- How many rules each dispatch has reached. -/
def sizes (e : Engine) : List Nat := e.dispatches.map fun d => d.outcomes.length

/-- What each dispatch has read from its occurrence. -/
def bases (e : Engine) : List OccurrenceContext := e.dispatches.map Dispatch.base

/-- Whether each dispatch was cut short. -/
def cuts (e : Engine) : List Bool := e.dispatches.map Dispatch.cut

/-- Every attempt that was made, also those that failed. -/
def deliveries (e : Engine) : List Sending := e.outbox.platform.deliveries

@[simp] theorem length_sizes (e : Engine) : e.sizes.length = e.dispatches.length :=
  List.length_map _

/-- Lists of dispatches that are known by the same things. -/
structure SameRecords (dispatches dispatches' : List Dispatch) : Prop where
  sizes : (dispatches'.map fun d => d.outcomes.length) =
    dispatches.map fun d => d.outcomes.length
  bases : dispatches'.map Dispatch.base = dispatches.map Dispatch.base
  cuts : dispatches'.map Dispatch.cut = dispatches.map Dispatch.cut

theorem SameRecords.refl (dispatches : List Dispatch) : SameRecords dispatches dispatches :=
  ⟨rfl, rfl, rfl⟩

theorem sameRecords_set {dispatches : List Dispatch} {number : Nat} {d : Dispatch}
    (found : dispatches[number]? = some d) (new : Dispatch)
    (size : new.outcomes.length = d.outcomes.length) (base : new.base = d.base)
    (cut : new.cut = d.cut) : SameRecords dispatches (dispatches.set number new) := by
  have kept : ∀ {α : Type} (f : Dispatch → α), f new = f d →
      (dispatches.set number new).map f = dispatches.map f := by
    intro α f same
    have there : (dispatches.map f)[number]? = some (f new) := by
      rw [List.getElem?_map, found, same]
      rfl
    obtain ⟨_, value⟩ := List.getElem?_eq_some_iff.mp there
    rw [List.map_set, ← value, List.set_getElem_self]
  exact ⟨kept _ size, kept _ base, kept _ cut⟩

theorem sameRecords_modify (dispatches : List Dispatch) (number : Nat) {f : Dispatch → Dispatch}
    (size : ∀ d, (f d).outcomes.length = d.outcomes.length) (base : ∀ d, (f d).base = d.base)
    (cut : ∀ d, (f d).cut = d.cut) : SameRecords dispatches (dispatches.modify number f) := by
  have kept : ∀ {α : Type} (g : Dispatch → α), (∀ d, g (f d) = g d) →
      (dispatches.modify number f).map g = dispatches.map g := by
    intro α g same
    apply List.ext_getElem?
    intro i
    rw [List.getElem?_map, List.getElem?_map, List.getElem?_modify]
    by_cases here : number = i
    · cases dispatches[i]? <;> simp [here, same]
    · simp [here]
  exact ⟨kept _ size, kept _ base, kept _ cut⟩

/-! ### Taking up a task -/

theorem note_eq (e : Engine) (ticket : Ticket) (outcome? : Option Outcome) :
    ∃ dispatches, e.note ticket outcome? = { e with dispatches := dispatches } ∧
      SameRecords e.dispatches dispatches := by
  cases outcome? with
  | none => exact ⟨e.dispatches, rfl, SameRecords.refl _⟩
  | some outcome =>
    refine ⟨_, rfl, sameRecords_modify _ _ ?_ (fun _ => rfl) (fun _ => rfl)⟩
    intro d
    exact List.length_set

@[simp] theorem tasks_note (e : Engine) (ticket : Ticket) (outcome? : Option Outcome) :
    (e.note ticket outcome?).tasks = e.tasks := by
  cases outcome? <;> rfl

@[simp] theorem outbox_note (e : Engine) (ticket : Ticket) (outcome? : Option Outcome) :
    (e.note ticket outcome?).outbox = e.outbox := by
  cases outcome? <;> rfl

@[simp] theorem outstanding_note (e : Engine) (ticket : Ticket) (outcome? : Option Outcome) :
    (e.note ticket outcome?).outstanding = e.outstanding := by
  rw [outstanding, tasks_note, outbox_note, outstanding]

theorem take_eq (e : Engine) (task : Task) :
    ∃ outbox dispatches, e.take task = { e with outbox := outbox, dispatches := dispatches } := by
  cases task with
  | resume paused =>
    obtain ⟨dispatches, noted, _⟩ := note_eq { e with outbox := (e.outbox.resume paused).2 }
      paused.ticket (e.outbox.resume paused).1
    exact ⟨_, dispatches, noted⟩
  | start ticket work =>
    cases found : e.dispatches[ticket.dispatch]? with
    | none => exact ⟨e.outbox, e.dispatches, by simp only [take, found]⟩
    | some d =>
      let carried := e.outbox.carryOut ticket (work.prepare e.surroundings d.occurrence d.base)
      obtain ⟨dispatches, noted, _⟩ := note_eq { e with outbox := carried.2 } ticket carried.1
      refine ⟨carried.2, dispatches, ?_⟩
      simp only [take, found]
      exact noted

/-- What a task does: it sends some of its messages, which are to different destinations,
    and leaves the others waiting. -/
theorem take_progress {e : Engine} (distinct : e.outbox.Distinct) {attempts : List Attempt}
    {task : Task} (fits : task.Fits attempts) :
    ∃ outbox dispatches messages sent left,
      e.take task = { e with outbox := outbox, dispatches := dispatches } ∧
      SameRecords e.dispatches dispatches ∧
      (idsFor attempts task.ticket ++ idsOf messages).Nodup ∧
      Outbox.Progress e.outbox task.ticket messages outbox sent left := by
  cases task with
  | resume paused =>
    obtain ⟨sent, left, progress⟩ := Outbox.resume_progress paused distinct
    obtain ⟨dispatches, noted, same⟩ :=
      note_eq { e with outbox := (e.outbox.resume paused).2 } paused.ticket
        (e.outbox.resume paused).1
    exact ⟨_, dispatches, paused.sendings, sent, left, noted, same, fits, progress⟩
  | start ticket work =>
    obtain ⟨unsent, separate⟩ := fits
    cases found : e.dispatches[ticket.dispatch]? with
    | none =>
      refine ⟨e.outbox, e.dispatches, [], [], none, ?_, SameRecords.refl _, ?_,
        Outbox.Progress.of_none distinct ticket rfl rfl⟩
      · simp only [take, found]
      · rw [show idsFor attempts (Task.start ticket work).ticket = [] from unsent]
        exact List.nodup_nil
    | some d =>
      obtain ⟨sent, left, progress⟩ := Outbox.carryOut_progress ticket
        (work.prepare e.surroundings d.occurrence d.base) distinct
      obtain ⟨dispatches, noted, same⟩ :=
        note_eq { e with
            outbox := (e.outbox.carryOut ticket
              (work.prepare e.surroundings d.occurrence d.base)).2 } ticket
          (e.outbox.carryOut ticket (work.prepare e.surroundings d.occurrence d.base)).1
      refine ⟨_, dispatches, _, sent, left, ?_, same, ?_, progress⟩
      · simp only [take, found]
        exact noted
      · rw [show idsFor attempts (Task.start ticket work).ticket = [] from unsent]
        exact separate.nodup_prepare _ _ _

/-- Takes up the task at a place, if there is one. -/
def takeAt (e : Engine) (place : Nat) : Engine :=
  match e.tasks[place]? with
  | none => e
  | some task => { e with tasks := e.tasks.eraseIdx place }.take task

theorem takeAt_eq (e : Engine) (place : Nat) :
    ∃ outbox dispatches tasks, e.takeAt place =
      { e with outbox := outbox, dispatches := dispatches, tasks := tasks } := by
  unfold takeAt
  split
  · exact ⟨e.outbox, e.dispatches, e.tasks, rfl⟩
  · rename_i task _
    obtain ⟨outbox, dispatches, taken⟩ := take_eq { e with tasks := e.tasks.eraseIdx place } task
    exact ⟨outbox, dispatches, e.tasks.eraseIdx place, taken⟩

/-- A task looks neither at the cache of category names nor at the other tasks. -/
theorem take_with (e : Engine) (r : Resolver) (tasks : List Task) (task : Task) :
    { e with resolver := r, tasks := tasks }.take task =
      { e.take task with resolver := r, tasks := tasks } := by
  have noted : ∀ (e : Engine) (ticket : Ticket) (outcome? : Option Outcome),
      { e with resolver := r, tasks := tasks }.note ticket outcome? =
        { e.note ticket outcome? with resolver := r, tasks := tasks } := by
    intro e ticket outcome?
    cases outcome? <;> rfl
  cases task with
  | resume paused => exact noted { e with outbox := (e.outbox.resume paused).2 } _ _
  | start ticket work =>
    cases found : e.dispatches[ticket.dispatch]? with
    | none => simp only [take, found]
    | some d =>
      simp only [take, found]
      exact noted { e with
        outbox := (e.outbox.carryOut ticket
          (work.prepare e.surroundings d.occurrence d.base)).2 } _ _

theorem take_withTasks (e : Engine) (tasks : List Task) (task : Task) :
    { e with tasks := tasks }.take task = { e.take task with tasks := tasks } := by
  have taken := e.take_with e.resolver tasks task
  obtain ⟨outbox, dispatches, same⟩ := e.take_eq task
  rw [same] at taken ⊢
  exact taken

end Engine

end EventAlerts
