/-
  EventAlerts/Proofs/Engine/Dispatching.lean
  ==========================================
  **Dispatching an occurrence** — what it leaves, and when it happens.

  Every rule leaves one task at most, under a ticket of its own, and a task that knows its
  messages already has one for each destination at most.  An occurrence that comes through
  the host is dispatched once if the engine's handler is on the registry of its category,
  and not at all if it is not.
-/
import EventAlerts.Proofs.Engine.Accounts
import EventAlerts.Proofs.Engine.Answering
import EventAlerts.Proofs.Host.Following

namespace EventAlerts

open EventAlerts.Rule (Resolver Trigger)
open EventAlerts.Time (Span latestReading)

/-! ### What rules leave -/

theorem AlertRule.separate_dispatch {r : AlertRule} {s : Surroundings} {o : Occurrence}
    {base : OccurrenceContext} {effective : List Trigger} {work : Work}
    (left : (r.dispatch s o base effective).1 = .left work) : work.Separate := by
  simp only [AlertRule.dispatch] at left
  split at left
  · cases left
  split at left
  · injection left with same
    rw [← same]
    trivial
  split at left
  · cases left
  · rename_i sendings result
    injection left with same
    rw [← same]
    exact AlertRule.nodup_of_deliver result

section Rules

variable (s : Surroundings) (o : Occurrence) (base : OccurrenceContext) (now : Span)

theorem separate_each (resolver : Resolver) (rules : List AlertRule) :
    ∀ work, Disposition.left work ∈ (dispatchRules s o base now resolver rules).each →
      work.Separate := by
  induction rules generalizing resolver with
  | nil =>
    intro work member
    cases member
  | cons r rest ih =>
    intro work member
    rcases dispatchRules_cons_cases s o base now resolver r rest with ⟨_, _, _, same⟩ | ⟨_, same⟩
    · rw [same] at member
      rcases List.mem_cons.mp member with first | other
      · exact AlertRule.separate_dispatch first.symm
      · exact ih _ work other
    · rw [same] at member
      cases member

end Rules

namespace Engine

/-- A task that is left starts the work of a rule, under the rule's ticket. -/
theorem mem_tasksLeft {dispatch rule : Nat} {each : List Disposition} {t : Task}
    (member : t ∈ tasksLeft dispatch rule each) :
    ∃ place work, t = .start { dispatch := dispatch, rule := place } work ∧
      rule ≤ place ∧ place < rule + each.length ∧ Disposition.left work ∈ each := by
  induction each generalizing rule with
  | nil => cases member
  | cons d rest ih =>
    have later : t ∈ tasksLeft dispatch (rule + 1) rest →
        ∃ place work, t = .start { dispatch := dispatch, rule := place } work ∧
          rule ≤ place ∧ place < rule + (d :: rest).length ∧
          Disposition.left work ∈ d :: rest := by
      intro behind
      obtain ⟨place, work, same, low, high, left⟩ := ih behind
      refine ⟨place, work, same, by omega, ?_, List.mem_cons_of_mem _ left⟩
      rw [List.length_cons]
      omega
    cases d with
    | settled outcome => exact later member
    | left work =>
      rcases List.mem_cons.mp member with here | behind
      · refine ⟨rule, work, here, Nat.le_refl _, ?_, List.mem_cons_self⟩
        rw [List.length_cons]
        omega
      · exact later behind

theorem nodup_tasksLeft (dispatch rule : Nat) (each : List Disposition) :
    ((tasksLeft dispatch rule each).map Task.ticket).Nodup := by
  induction each generalizing rule with
  | nil => exact List.nodup_nil
  | cons d rest ih =>
    cases d with
    | settled outcome => exact ih (rule + 1)
    | left work =>
      rw [tasksLeft, List.map_cons, List.nodup_cons]
      refine ⟨?_, ih (rule + 1)⟩
      intro again
      obtain ⟨t, member, same⟩ := List.mem_map.mp again
      obtain ⟨place, _, rfl, low, _⟩ := mem_tasksLeft member
      injection same with _ place_eq
      omega

end Engine

/-- A dispatch leaves tasks under tickets that are all new. -/
theorem Accounted.dispatch {attempts : List Attempt} {tasks : List Task} {sizes : List Nat}
    (accounted : Accounted attempts tasks sizes) {each : List Disposition}
    (separate : ∀ work, Disposition.left work ∈ each → work.Separate) :
    Accounted attempts (tasks ++ Engine.tasksLeft sizes.length 0 each)
      (sizes ++ [each.length]) where
  distinct := by
    rw [List.map_append, List.nodup_append]
    refine ⟨accounted.distinct, Engine.nodup_tasksLeft _ _ _, ?_⟩
    intro a old b new same
    obtain ⟨t, member, rfl⟩ := List.mem_map.mp old
    obtain ⟨t', member', rfl⟩ := List.mem_map.mp new
    obtain ⟨place, _, rfl, _⟩ := Engine.mem_tasksLeft member'
    have early := (accounted.left t member).dispatch_lt
    rw [same] at early
    exact Nat.lt_irrefl _ early
  fits := by
    intro t member
    rcases List.mem_append.mp member with old | new
    · exact accounted.fits t old
    · obtain ⟨place, work, rfl, _, _, left⟩ := Engine.mem_tasksLeft new
      refine ⟨?_, separate work left⟩
      apply idsFor_eq_nil
      intro a made same
      have early := (accounted.made a made).dispatch_lt
      rw [same] at early
      exact Nat.lt_irrefl _ early
  once := accounted.once
  left := by
    intro t member
    rcases List.mem_append.mp member with old | new
    · exact (accounted.left t old).append _
    · obtain ⟨place, work, rfl, _, high, _⟩ := Engine.mem_tasksLeft new
      refine ⟨each.length, by simp [Task.ticket], ?_⟩
      simpa [Task.ticket] using high
  made := fun a member => (accounted.made a member).append _

namespace Engine

/-! ### When an occurrence is dispatched -/

theorem subscription_dispatch (e : Engine) (o : Occurrence) :
    (e.dispatch o).2.subscription = e.subscription := rfl

/-- Handlers other than the engine's do nothing to it. -/
theorem handOver_of_absent {handlers : List HandlerId} (o : Occurrence) {e : Engine}
    (absent : e.subscription.handler ∉ handlers) : e.handOver o handlers = (.ok (), e) := by
  induction handlers with
  | nil => rfl
  | cons h rest ih =>
    obtain ⟨other, behind⟩ := not_or.mp fun either => absent (List.mem_cons.mpr either)
    rw [handOver, if_neg fun same => other same.symm]
    exact ih behind

theorem handOver_of_once {handlers : List HandlerId} (o : Occurrence) {e : Engine}
    (present : e.subscription.handler ∈ handlers)
    (once : handlers.count e.subscription.handler ≤ 1) :
    e.handOver o handlers = ((e.dispatch o).1.map fun _ => (), (e.dispatch o).2) := by
  induction handlers with
  | nil => cases present
  | cons h rest ih =>
    rw [handOver]
    by_cases own : h = e.subscription.handler
    · rw [if_pos own]
      -- the handler does not come again, so that the rest is left out of account
      have behind : (e.dispatch o).2.subscription.handler ∉ rest := by
        rw [subscription_dispatch, ← List.count_eq_zero]
        rw [← own, List.count_cons_self, own] at once
        omega
      have others := handOver_of_absent o behind
      cases answered : (e.dispatch o).1 with
      | error err =>
        have both : e.dispatch o = (.error err, (e.dispatch o).2) := Prod.ext answered rfl
        rw [both]
        rfl
      | ok number =>
        have both : e.dispatch o = (.ok number, (e.dispatch o).2) := Prod.ext answered rfl
        rw [both]
        exact others
    · rw [if_neg own]
      have behind := (List.mem_cons.mp present).resolve_left fun same => own same.symm
      rw [List.count_cons_of_ne own] at once
      exact ih behind once

variable {e : Engine}

/-- The host after a category was used. -/
def hostAfterUse (e : Engine) (category : String) : Host := (e.host.create category).1

theorem fire_of_attached (f : Following e.host e.subscription) {category : String}
    (attached : e.subscription.handler ∈ (e.hostAfterUse category).handlersOf category)
    (o : Occurrence) :
    e.fire category o =
      (({ e with host := e.hostAfterUse category }.dispatch o).1.map fun _ => (),
        ({ e with host := e.hostAfterUse category }.dispatch o).2) := by
  have once := (f.createDuring category category).count_handlersOf_le category
  exact handOver_of_once o (e := { e with host := e.hostAfterUse category }) attached once

theorem fire_of_unattached {category : String}
    (unattached : e.subscription.handler ∉ (e.hostAfterUse category).handlersOf category)
    (o : Occurrence) :
    e.fire category o = (.ok (), { e with host := e.hostAfterUse category }) :=
  handOver_of_absent o (e := { e with host := e.hostAfterUse category }) unattached

theorem fire_cases (f : Following e.host e.subscription) (category : String) (o : Occurrence) :
    (e.fire category o).2 = ({ e with host := e.hostAfterUse category }.dispatch o).2 ∨
      (e.fire category o).2 = { e with host := e.hostAfterUse category } := by
  by_cases attached : e.subscription.handler ∈ (e.hostAfterUse category).handlersOf category
  · rw [fire_of_attached f attached]
    exact .inl rfl
  · rw [fire_of_unattached attached]
    exact .inr rfl

end Engine

end EventAlerts
