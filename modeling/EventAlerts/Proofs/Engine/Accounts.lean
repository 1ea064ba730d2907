/-
  EventAlerts/Proofs/Engine/Accounts.lean
  =======================================
  **The accounts of pieces of work** — what each has sent, what it has still to send,
  and that no destination occurs twice in both together.

  A piece of work is known by its ticket: the dispatch, and the rule's place in it.
  `Accounted` is about all attempts that were made so far and all tasks that are left,
  those that wait at gates included.  It is kept when a dispatch leaves new tasks
  (`Accounted.dispatch`) and when a task sends some of its messages and leaves the others
  (`Accounted.progress`).
-/
import EventAlerts.Engine.Basic
import EventAlerts.Proofs.Engine.Preparation
import EventAlerts.Proofs.Engine.Waiting

namespace EventAlerts

/-! ### Attempts -/

/-- An attempt to send a message, and the piece of work it was made for. -/
structure Attempt where
  ticket : Ticket
  sending : Sending
  deriving Repr, DecidableEq

namespace Attempt

/-- Attempts for one piece of work. -/
def allFor (ticket : Ticket) (sendings : List Sending) : List Attempt :=
  sendings.map fun s => { ticket := ticket, sending := s }

end Attempt

/-- The ids of the destinations of messages. -/
def idsOf (sendings : List Sending) : List String := sendings.map (·.destination.id)

/-- What attempts were made to send for a piece of work, in order. -/
def sentFor (attempts : List Attempt) (ticket : Ticket) : List Sending :=
  (attempts.filter fun a => a.ticket = ticket).map Attempt.sending

/-- The ids that attempts were made at for a piece of work, in order. -/
def idsFor (attempts : List Attempt) (ticket : Ticket) : List String :=
  (attempts.filter fun a => a.ticket = ticket).map (·.sending.destination.id)

theorem idsFor_eq_idsOf (attempts : List Attempt) (ticket : Ticket) :
    idsFor attempts ticket = idsOf (sentFor attempts ticket) := by
  simp [idsFor, idsOf, sentFor]

theorem sentFor_allFor_same (attempts : List Attempt) (ticket : Ticket) (sent : List Sending) :
    sentFor (attempts ++ Attempt.allFor ticket sent) ticket = sentFor attempts ticket ++ sent := by
  have all : (Attempt.allFor ticket sent).filter (fun a => a.ticket = ticket) =
      Attempt.allFor ticket sent := by
    rw [List.filter_eq_self]
    intro a member
    obtain ⟨s, _, rfl⟩ := List.mem_map.mp member
    exact decide_eq_true rfl
  unfold sentFor
  rw [List.filter_append, all, List.map_append]
  simp [Attempt.allFor, Function.comp_def]

theorem sentFor_allFor_other (attempts : List Attempt) {ticket other : Ticket}
    (different : other ≠ ticket) (sent : List Sending) :
    sentFor (attempts ++ Attempt.allFor ticket sent) other = sentFor attempts other := by
  have none : (Attempt.allFor ticket sent).filter (fun a => a.ticket = other) = [] := by
    rw [List.filter_eq_nil_iff]
    intro a member
    obtain ⟨s, _, rfl⟩ := List.mem_map.mp member
    simpa using fun same : ticket = other => different same.symm
  unfold sentFor
  rw [List.filter_append, none, List.append_nil]

theorem sentFor_eq_nil {attempts : List Attempt} {ticket : Ticket}
    (unknown : ∀ a ∈ attempts, a.ticket ≠ ticket) : sentFor attempts ticket = [] := by
  unfold sentFor
  rw [List.map_eq_nil_iff, List.filter_eq_nil_iff]
  intro a member
  simpa using unknown a member

theorem idsFor_allFor_same (attempts : List Attempt) (ticket : Ticket) (sent : List Sending) :
    idsFor (attempts ++ Attempt.allFor ticket sent) ticket =
      idsFor attempts ticket ++ idsOf sent := by
  rw [idsFor_eq_idsOf, sentFor_allFor_same, idsFor_eq_idsOf, idsOf, List.map_append]
  rfl

theorem idsFor_allFor_other (attempts : List Attempt) {ticket other : Ticket}
    (different : other ≠ ticket) (sent : List Sending) :
    idsFor (attempts ++ Attempt.allFor ticket sent) other = idsFor attempts other := by
  rw [idsFor_eq_idsOf, sentFor_allFor_other attempts different, idsFor_eq_idsOf]

theorem idsFor_eq_nil {attempts : List Attempt} {ticket : Ticket}
    (unknown : ∀ a ∈ attempts, a.ticket ≠ ticket) : idsFor attempts ticket = [] := by
  rw [idsFor_eq_idsOf, sentFor_eq_nil unknown]
  rfl

/-! ### Tickets and tasks -/

/-- Whether a ticket is one of dispatches that had so many rules each. -/
def Ticket.Names (sizes : List Nat) (ticket : Ticket) : Prop :=
  ∃ rules, sizes[ticket.dispatch]? = some rules ∧ ticket.rule < rules

theorem Ticket.Names.dispatch_lt {sizes : List Nat} {ticket : Ticket}
    (names : ticket.Names sizes) : ticket.dispatch < sizes.length := by
  obtain ⟨rules, found, _⟩ := names
  exact (List.getElem?_eq_some_iff.mp found).1

theorem Ticket.Names.append {sizes : List Nat} {ticket : Ticket} (names : ticket.Names sizes)
    (later : List Nat) : ticket.Names (sizes ++ later) := by
  have early := names.dispatch_lt
  obtain ⟨rules, found, place⟩ := names
  exact ⟨rules, by rw [List.getElem?_append_left early, found], place⟩

/-- The messages of a piece of work, if they are known already, are all to different
    destinations. -/
def Work.Separate : Work → Prop
  | .rule _ _ => True
  | .messages sendings => (idsOf sendings).Nodup

/-- What a task has still to send fits to what was sent for it. -/
def Task.Fits (attempts : List Attempt) : Task → Prop
  | .start ticket work => idsFor attempts ticket = [] ∧ work.Separate
  | .resume paused => (idsFor attempts paused.ticket ++ idsOf paused.sendings).Nodup

/-- Whether a task fits depends on the attempts for its ticket only. -/
theorem Task.Fits.congr {attempts attempts' : List Attempt} {task : Task}
    (fits : task.Fits attempts)
    (same : idsFor attempts' task.ticket = idsFor attempts task.ticket) :
    task.Fits attempts' := by
  cases task with
  | start ticket work => exact ⟨same.trans fits.1, fits.2⟩
  | resume paused =>
    have kept : idsFor attempts' paused.ticket = idsFor attempts paused.ticket := same
    change (idsFor attempts' paused.ticket ++ idsOf paused.sendings).Nodup
    rw [kept]
    exact fits

/-- What is prepared for a piece of work goes to different destinations. -/
theorem Work.Separate.nodup_prepare {work : Work} (separate : work.Separate) (s : Surroundings)
    (o : Occurrence) (base : OccurrenceContext) :
    (idsOf (Outbox.sendingsOf (work.prepare s o base))).Nodup := by
  cases work with
  | messages sendings => exact separate
  | rule r matched =>
    unfold Outbox.sendingsOf
    cases result : (Work.prepare (.rule r matched) s o base).result with
    | skip outcome => exact List.nodup_nil
    | deliver sendings => exact AlertRule.nodup_of_deliver result

/-! ### The accounts -/

/-- The accounts of attempts and of the tasks that are left, over dispatches of so many
    rules each. -/
structure Accounted (attempts : List Attempt) (tasks : List Task) (sizes : List Nat) : Prop where
  /-- No piece of work has two tasks. -/
  distinct : (tasks.map Task.ticket).Nodup
  fits : ∀ t ∈ tasks, t.Fits attempts
  /-- No piece of work was sent twice to a destination. -/
  once : ∀ ticket, (idsFor attempts ticket).Nodup
  left : ∀ t ∈ tasks, t.ticket.Names sizes
  made : ∀ a ∈ attempts, a.ticket.Names sizes

namespace Accounted

variable {attempts : List Attempt} {tasks tasks' : List Task} {sizes : List Nat}

theorem start : Accounted [] [] [] where
  distinct := List.nodup_nil
  fits := by
    intro t member
    cases member
  once := fun _ => List.nodup_nil
  left := by
    intro t member
    cases member
  made := by
    intro a member
    cases member

/-- Nothing is known about the tickets of dispatches that are still to come. -/
theorem fresh (accounted : Accounted attempts tasks sizes) {ticket : Ticket}
    (new : sizes.length ≤ ticket.dispatch) :
    (∀ a ∈ attempts, a.ticket ≠ ticket) ∧ ∀ t ∈ tasks, t.ticket ≠ ticket := by
  have old : ∀ {known : Ticket}, known.Names sizes → known ≠ ticket := by
    intro known names same
    have early := names.dispatch_lt
    rw [same] at early
    omega
  exact ⟨fun a made => old (accounted.made a made), fun t left => old (accounted.left t left)⟩

theorem perm (accounted : Accounted attempts tasks sizes) (same : tasks.Perm tasks') :
    Accounted attempts tasks' sizes where
  distinct := (same.map Task.ticket).nodup_iff.mp accounted.distinct
  fits := fun t member => accounted.fits t (same.mem_iff.mpr member)
  once := accounted.once
  left := fun t member => accounted.left t (same.mem_iff.mpr member)
  made := accounted.made

/-- Tasks may be dropped. -/
theorem sublist (accounted : Accounted attempts tasks sizes) (fewer : tasks'.Sublist tasks) :
    Accounted attempts tasks' sizes where
  distinct := accounted.distinct.sublist (fewer.map Task.ticket)
  fits := fun t member => accounted.fits t (fewer.mem member)
  once := accounted.once
  left := fun t member => accounted.left t (fewer.mem member)
  made := accounted.made

/-- A task sends the first of its messages; the others, if there are any, are left. -/
theorem progress {task : Task} (accounted : Accounted attempts (task :: tasks) sizes)
    {messages sent : List Sending} {left : Option Paused}
    (separate : (idsFor attempts task.ticket ++ idsOf messages).Nodup)
    (all : messages = sent ++ (left.map Paused.sendings).getD [])
    (ticket : ∀ p ∈ left, p.ticket = task.ticket) :
    Accounted (attempts ++ Attempt.allFor task.ticket sent)
      (left.toList.map Task.resume ++ tasks) sizes := by
  have others := List.nodup_cons.mp accounted.distinct
  have named := accounted.left task List.mem_cons_self
  rw [all, idsOf, List.map_append, ← List.append_assoc] at separate
  have unchanged : ∀ t ∈ tasks, idsFor (attempts ++ Attempt.allFor task.ticket sent) t.ticket =
      idsFor attempts t.ticket := by
    intro t member
    apply idsFor_allFor_other
    intro same
    exact others.1 (List.mem_map.mpr ⟨t, member, same⟩)
  exact {
    distinct := by
      cases left with
      | none => exact others.2
      | some p =>
        have own : (Task.resume p).ticket = task.ticket := ticket p rfl
        simp only [Option.toList_some, List.map_cons, List.map_nil, List.singleton_append, own]
        exact accounted.distinct
    fits := by
      intro t member
      rcases List.mem_append.mp member with resumed | other
      · obtain ⟨p, waits, rfl⟩ := List.mem_map.mp resumed
        have own := ticket p (Option.mem_toList.mp waits)
        change (idsFor _ p.ticket ++ idsOf p.sendings).Nodup
        rw [own, idsFor_allFor_same]
        have rest : (left.map Paused.sendings).getD [] = p.sendings := by
          rw [Option.mem_toList.mp waits]
          rfl
        rw [rest] at separate
        exact separate
      · exact (accounted.fits t (List.mem_cons_of_mem _ other)).congr (unchanged t other)
    once := by
      intro asked
      by_cases own : asked = task.ticket
      · rw [own, idsFor_allFor_same]
        exact separate.sublist (List.sublist_append_left _ _)
      · rw [idsFor_allFor_other attempts own]
        exact accounted.once asked
    left := by
      intro t member
      rcases List.mem_append.mp member with resumed | other
      · obtain ⟨p, waits, rfl⟩ := List.mem_map.mp resumed
        have own : (Task.resume p).ticket = task.ticket := ticket p (Option.mem_toList.mp waits)
        rw [own]
        exact named
      · exact accounted.left t (List.mem_cons_of_mem _ other)
    made := by
      intro a member
      rcases List.mem_append.mp member with earlier | now
      · exact accounted.made a earlier
      · obtain ⟨s, _, rfl⟩ := List.mem_map.mp now
        exact named }

end Accounted

end EventAlerts
