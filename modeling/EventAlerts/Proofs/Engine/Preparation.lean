/-
  EventAlerts/Proofs/Engine/Preparation.lean
  ==========================================
  **What a rule prepares** — the outcome of `prepare`, told from the first condition at
  each destination that does not hold.

  At a destination the conditions are taken in order up to the first that is false or
  cannot be evaluated.  `verdict` computes what that first stop is, and the predicates
  `StopsAtFalse` and `StopsAtError` say it.  `messagesFor` is then a search for an error
  over all destinations, and a filter over them if there is none
  (`messagesFor_eq`).  `prepare_by_first_stops` puts this together with the gate for
  cancelled occurrences and the lookups of destinations.
-/
import EventAlerts.Engine.Pipeline
import EventAlerts.Proofs.Messaging.Resolution
import EventAlerts.Proofs.Render.Bindings

namespace EventAlerts

open EventAlerts.Expr (Bindings)
open EventAlerts.Rule (Trigger)

/-! ### The first condition that does not hold -/

/-- All conditions before the first that does not hold are true, and that one is
    false. -/
def StopsAtFalse (bindings : Bindings) (conditions : List String) : Prop :=
  ∃ before c after, conditions = before ++ c :: after ∧
    (∀ t ∈ before, Expr.condition t bindings = .ok true) ∧
    Expr.condition c bindings = .ok false

/-- All conditions before the first that does not hold are true, and that one cannot be
    evaluated. -/
def StopsAtError (bindings : Bindings) (conditions : List String) : Prop :=
  ∃ before c after e, conditions = before ++ c :: after ∧
    (∀ t ∈ before, Expr.condition t bindings = .ok true) ∧
    Expr.condition c bindings = .error e

variable {bindings : Bindings}

theorem verdict_append {before : List String}
    (pass : ∀ t ∈ before, Expr.condition t bindings = .ok true) (rest : List String) :
    verdict bindings (before ++ rest) = verdict bindings rest := by
  induction before with
  | nil => rfl
  | cons t before ih =>
    rw [List.cons_append, verdict, pass t List.mem_cons_self]
    exact ih fun t' member => pass t' (List.mem_cons_of_mem t member)

theorem verdict_eq_holds_iff {conditions : List String} :
    verdict bindings conditions = .holds ↔
      ∀ t ∈ conditions, Expr.condition t bindings = .ok true := by
  constructor
  · induction conditions with
    | nil =>
      intro _ t member
      cases member
    | cons c rest ih =>
      intro holds
      rw [verdict] at holds
      split at holds
      · rename_i pass
        exact List.forall_mem_cons.mpr ⟨pass, ih holds⟩
      · cases holds
      · cases holds
  · intro pass
    simpa [verdict] using verdict_append pass []

theorem verdict_eq_fails_iff {conditions : List String} :
    verdict bindings conditions = .fails ↔ StopsAtFalse bindings conditions := by
  constructor
  · induction conditions with
    | nil =>
      intro fails
      cases fails
    | cons c rest ih =>
      intro fails
      rw [verdict] at fails
      split at fails
      · rename_i pass
        obtain ⟨before, stop, after, split, passes, stopped⟩ := ih fails
        refine ⟨c :: before, stop, after, by rw [split]; rfl, ?_, stopped⟩
        exact List.forall_mem_cons.mpr ⟨pass, passes⟩
      · rename_i stopped
        refine ⟨[], c, rest, rfl, ?_, stopped⟩
        intro t member
        cases member
      · cases fails
  · rintro ⟨before, stop, after, rfl, passes, stopped⟩
    rw [verdict_append passes, verdict, stopped]

theorem verdict_eq_error_iff {conditions : List String} :
    verdict bindings conditions = .error ↔ StopsAtError bindings conditions := by
  constructor
  · induction conditions with
    | nil =>
      intro error
      cases error
    | cons c rest ih =>
      intro error
      rw [verdict] at error
      split at error
      · rename_i pass
        obtain ⟨before, stop, after, e, split, passes, stopped⟩ := ih error
        refine ⟨c :: before, stop, after, e, by rw [split]; rfl, ?_, stopped⟩
        exact List.forall_mem_cons.mpr ⟨pass, passes⟩
      · cases error
      · rename_i e stopped
        refine ⟨[], c, rest, e, rfl, ?_, stopped⟩
        intro t member
        cases member
  · rintro ⟨before, stop, after, e, rfl, passes, stopped⟩
    rw [verdict_append passes, verdict, stopped]

/-- What stands behind a false condition is not looked at. -/
theorem verdict_behind_false {c : String} (stopped : Expr.condition c bindings = .ok false)
    (before after after' : List String) :
    verdict bindings (before ++ c :: after) = verdict bindings (before ++ c :: after') := by
  induction before with
  | nil => simp only [List.nil_append, verdict, stopped]
  | cons t before ih =>
    simp only [List.cons_append, verdict]
    split
    · exact ih
    · rfl
    · rfl

namespace AlertRule

variable (r : AlertRule) (s : Surroundings) (o : Occurrence) (base : OccurrenceContext)

/-! ### The messages of a rule -/

/-- The message for a destination, as it is sent. -/
def sendingTo (d : Destination) : Sending :=
  let rendered := r.renderAt s base (bindingsAt s o base d)
  { destination := d, identity := rendered.identity, message := rendered.message }

/-- Whether a destination gets a message: every condition holds there, and the message is
    not empty. -/
def Delivers (d : Destination) : Prop :=
  (∀ t ∈ r.conditions, Expr.condition t (bindingsAt s o base d) = .ok true) ∧
    (r.sendingTo s o base d).message.isEmpty = false

instance (d : Destination) : Decidable (r.Delivers s o base d) :=
  decidable_of_iff
    (verdict (bindingsAt s o base d) r.conditions = .holds ∧
      (r.sendingTo s o base d).message.isEmpty = false)
    (and_congr verdict_eq_holds_iff Iff.rfl)

/-- The messages for destinations, in their order. -/
def sendingsTo (destinations : List Destination) : List Sending :=
  (destinations.filter fun d => r.Delivers s o base d).map (r.sendingTo s o base)

/-- Whether the conditions leave a destination out. -/
def blocks (d : Destination) : Bool := verdict (bindingsAt s o base d) r.conditions = .fails

/-- An error at one destination is an error for all; without one, each destination is
    dealt with by itself. -/
theorem messagesFor_eq (destinations : List Destination) :
    r.messagesFor s o base destinations =
      if ∃ d ∈ destinations, verdict (bindingsAt s o base d) r.conditions = .error then none
      else some (destinations.any (r.blocks s o base), r.sendingsTo s o base destinations) := by
  induction destinations with
  | nil => simp [messagesFor, sendingsTo]
  | cons d rest ih =>
    rw [messagesFor, ih]
    cases stop : verdict (bindingsAt s o base d) r.conditions with
    | error =>
      simp only
      rw [if_pos ⟨d, List.mem_cons_self, stop⟩]
    | fails =>
      have out : ¬ r.Delivers s o base d := by
        rintro ⟨pass, _⟩
        rw [verdict_eq_holds_iff.mpr pass] at stop
        cases stop
      by_cases error : ∃ d ∈ rest, verdict (bindingsAt s o base d) r.conditions = .error
      · simp [error]
      · simp [error, stop, blocks, sendingsTo, out]
    | holds =>
      have pass := verdict_eq_holds_iff.mp stop
      by_cases error : ∃ d ∈ rest, verdict (bindingsAt s o base d) r.conditions = .error
      · simp [error]
      · cases empty : (r.sendingTo s o base d).message.isEmpty with
        | true =>
          have out : ¬ r.Delivers s o base d := by
            rintro ⟨_, shown⟩
            rw [empty] at shown
            cases shown
          have nothing : (r.renderAt s base (bindingsAt s o base d)).message.isEmpty = true :=
            empty
          simp [error, stop, blocks, sendingsTo, out, nothing]
        | false =>
          have gets : r.Delivers s o base d := ⟨pass, empty⟩
          have something :
              (r.renderAt s base (bindingsAt s o base d)).message.isEmpty = false := empty
          simp [error, stop, blocks, sendingsTo, gets, something, sendingTo]

/-- Conditions matter by what the first stop at each destination is. -/
theorem messagesFor_withConditions {conditions : List String} {destinations : List Destination}
    (same : ∀ d ∈ destinations, verdict (bindingsAt s o base d) conditions =
      verdict (bindingsAt s o base d) r.conditions) :
    messagesFor { r with conditions := conditions } s o base destinations =
      r.messagesFor s o base destinations := by
  induction destinations with
  | nil => rfl
  | cons d rest ih =>
    obtain ⟨first, others⟩ := List.forall_mem_cons.mp same
    rw [messagesFor, messagesFor, ih others, first]
    rfl

/-! ### The outcome of preparing -/

/-- Two lists of conditions that differ at most behind a condition that is false. -/
def AgreeUpToFalse (bindings : Bindings) (conditions conditions' : List String) : Prop :=
  conditions = conditions' ∨
    ∃ before c after after', conditions = before ++ c :: after ∧
      conditions' = before ++ c :: after' ∧ Expr.condition c bindings = .ok false

theorem AgreeUpToFalse.verdict_eq {bindings : Bindings} {conditions conditions' : List String}
    (agree : AgreeUpToFalse bindings conditions conditions') :
    verdict bindings conditions = verdict bindings conditions' := by
  rcases agree with rfl | ⟨before, c, after, after', rfl, rfl, stopped⟩
  · rfl
  · exact verdict_behind_false stopped before after after'

variable {r s o base} {matched : List Trigger}

/-- The destinations that a rule finds, in order. -/
def targets (r : AlertRule) (s : Surroundings) : List Destination :=
  (s.directory.resolve r.destinations.toList).found

theorem prepare_of_cancelled (accepted : matched ≠ [])
    (gate : r.ignoreCancelled = true ∧ o.cancelled = some true) :
    r.prepare s matched o base = { result := .skip .cancelled, lookups := [] } := by
  obtain ⟨ignores, cancelled⟩ := gate
  simp [prepare, accepted, ignores, cancelled]

section Open

variable (accepted : matched ≠ []) (gate : ¬ (r.ignoreCancelled = true ∧ o.cancelled = some true))
include accepted gate

/-- Behind the gate the destinations are looked up, and the messages are searched for. -/
theorem prepare_of_open :
    (r.prepare s matched o base).lookups =
        (s.directory.resolve r.destinations.toList).lookups ∧
      (r.prepare s matched o base).result =
        if (r.targets s).isEmpty then .skip .noDestinations
        else
          match r.messagesFor s o base (r.targets s) with
          | none => .skip .conditionError
          | some (blocked, []) => .skip (if blocked then .conditionsFailed else .empty)
          | some (_, sendings) => .deliver sendings := by
  unfold prepare targets
  rw [if_neg (by simpa using accepted), if_neg (by simpa using gate)]
  exact ⟨rfl, rfl⟩

theorem prepare_of_unfound (unfound : r.targets s = []) :
    (r.prepare s matched o base).result = .skip .noDestinations := by
  rw [(prepare_of_open accepted gate).2, unfound]
  exact if_pos rfl

theorem prepare_of_found (met : r.targets s ≠ []) :
    (r.prepare s matched o base).result =
      match r.messagesFor s o base (r.targets s) with
      | none => .skip .conditionError
      | some (blocked, []) => .skip (if blocked then .conditionsFailed else .empty)
      | some (_, sendings) => .deliver sendings := by
  rw [(prepare_of_open accepted gate).2]
  exact if_neg (by simpa using met)

theorem prepare_of_error
    (error : ∃ d ∈ r.targets s, StopsAtError (bindingsAt s o base d) r.conditions) :
    (r.prepare s matched o base).result = .skip .conditionError := by
  obtain ⟨d, found, stop⟩ := error
  rw [prepare_of_found accepted gate (List.ne_nil_of_mem found), messagesFor_eq,
    if_pos ⟨d, found, verdict_eq_error_iff.mpr stop⟩]

variable (met : r.targets s ≠ [])
  (fine : ¬ ∃ d ∈ r.targets s, StopsAtError (bindingsAt s o base d) r.conditions)
include met fine

/-- Without an error, every destination is dealt with by itself. -/
theorem prepare_of_no_error :
    (r.prepare s matched o base).result =
      match r.sendingsTo s o base (r.targets s) with
      | [] => .skip (if (r.targets s).any (r.blocks s o base) then .conditionsFailed else .empty)
      | first :: others => .deliver (first :: others) := by
  simp only [← verdict_eq_error_iff] at fine
  rw [prepare_of_found accepted gate met, messagesFor_eq, if_neg fine]
  cases r.sendingsTo s o base (r.targets s) <;> rfl

theorem prepare_of_messages (some : r.sendingsTo s o base (r.targets s) ≠ []) :
    (r.prepare s matched o base).result =
      .deliver (r.sendingsTo s o base (r.targets s)) := by
  rw [prepare_of_no_error accepted gate met fine]
  cases messages : r.sendingsTo s o base (r.targets s) with
  | nil => exact absurd messages some
  | cons first others => rfl

theorem prepare_of_blocked (none : r.sendingsTo s o base (r.targets s) = [])
    (blocked : ∃ d ∈ r.targets s, StopsAtFalse (bindingsAt s o base d) r.conditions) :
    (r.prepare s matched o base).result = .skip .conditionsFailed := by
  have left : (r.targets s).any (r.blocks s o base) = true := by
    simpa [blocks, verdict_eq_fails_iff] using blocked
  rw [prepare_of_no_error accepted gate met fine, none]
  simp only [left, if_true]

theorem prepare_of_empty (none : r.sendingsTo s o base (r.targets s) = [])
    (unblocked : ¬ ∃ d ∈ r.targets s, StopsAtFalse (bindingsAt s o base d) r.conditions) :
    (r.prepare s matched o base).result = .skip .empty := by
  have left : (r.targets s).any (r.blocks s o base) = false := by
    simpa [blocks, verdict_eq_fails_iff] using unblocked
  rw [prepare_of_no_error accepted gate met fine, none]
  simp [left]

end Open

/-- What stands behind a false condition at every destination does not matter. -/
theorem prepare_withConditions {conditions : List String}
    (agree : ∀ d ∈ r.targets s,
      AgreeUpToFalse (bindingsAt s o base d) conditions r.conditions) :
    prepare { r with conditions := conditions } s matched o base =
      r.prepare s matched o base := by
  have same := r.messagesFor_withConditions s o base fun d found => (agree d found).verdict_eq
  unfold targets at same
  simp only [prepare, same]

/-- Messages are only prepared for destinations that get them. -/
theorem sendings_of_deliver {sendings : List Sending}
    (result : (r.prepare s matched o base).result = .deliver sendings) :
    sendings = r.sendingsTo s o base (r.targets s) := by
  by_cases accepted : matched = []
  · simp [prepare, accepted] at result
  by_cases gate : r.ignoreCancelled = true ∧ o.cancelled = some true
  · rw [prepare_of_cancelled accepted gate] at result
    cases result
  by_cases met : r.targets s = []
  · rw [prepare_of_unfound accepted gate met] at result
    cases result
  by_cases error : ∃ d ∈ r.targets s, StopsAtError (bindingsAt s o base d) r.conditions
  · rw [prepare_of_error accepted gate error] at result
    cases result
  rw [prepare_of_no_error accepted gate met error] at result
  cases messages : r.sendingsTo s o base (r.targets s) with
  | nil =>
    rw [messages] at result
    cases result
  | cons first others =>
    rw [messages] at result
    injection result with same
    exact same.symm

/-- No destination gets two messages. -/
theorem nodup_of_deliver {sendings : List Sending}
    (result : (r.prepare s matched o base).result = .deliver sendings) :
    (sendings.map (·.destination.id)).Nodup := by
  rw [sendings_of_deliver result, sendingsTo, List.map_map]
  have once : ((r.targets s).map Destination.id).Nodup := s.directory.nodup_found_resolve _
  exact once.sublist (List.filter_sublist.map _)

/-- What a rule comes to for an occurrence that one of its triggers accepts.  Behind the
    gate for cancelled occurrences it depends on the destinations that are found and, at
    each of them, on the first condition that does not hold there, with `channel` bound to
    the destination. -/
theorem prepare_by_first_stops (r : AlertRule) (s : Surroundings) (o : Occurrence)
    (base : OccurrenceContext) (matched : List Trigger) (accepted : matched ≠ []) :
    (r.ignoreCancelled = true ∧ o.cancelled = some true →
      r.prepare s matched o base = { result := .skip .cancelled, lookups := [] }) ∧
    (¬ (r.ignoreCancelled = true ∧ o.cancelled = some true) →
      (r.prepare s matched o base).lookups =
        (s.directory.resolve r.destinations.toList).lookups ∧
      (r.targets s = [] → (r.prepare s matched o base).result = .skip .noDestinations) ∧
      ((∃ d ∈ r.targets s, StopsAtError (bindingsAt s o base d) r.conditions) →
        (r.prepare s matched o base).result = .skip .conditionError) ∧
      (r.targets s ≠ [] →
        (¬ ∃ d ∈ r.targets s, StopsAtError (bindingsAt s o base d) r.conditions) →
        (r.sendingsTo s o base (r.targets s) ≠ [] →
          (r.prepare s matched o base).result =
            .deliver (r.sendingsTo s o base (r.targets s))) ∧
        (r.sendingsTo s o base (r.targets s) = [] →
          ((∃ d ∈ r.targets s, StopsAtFalse (bindingsAt s o base d) r.conditions) →
            (r.prepare s matched o base).result = .skip .conditionsFailed) ∧
          ((¬ ∃ d ∈ r.targets s, StopsAtFalse (bindingsAt s o base d) r.conditions) →
            (r.prepare s matched o base).result = .skip .empty)))) ∧
    (∀ d, (bindingsAt s o base d).find? "channel" =
      some (Expr.Value.ofJson (.variable "channel") d.toJson)) ∧
    (∀ conditions,
      (∀ d ∈ r.targets s, AgreeUpToFalse (bindingsAt s o base d) conditions r.conditions) →
      prepare { r with conditions := conditions } s matched o base =
        r.prepare s matched o base) := by
  refine ⟨prepare_of_cancelled accepted, ?_, ?_, ?_⟩
  · intro gate
    refine ⟨(prepare_of_open accepted gate).1, prepare_of_unfound accepted gate,
      prepare_of_error accepted gate, ?_⟩
    intro met fine
    refine ⟨prepare_of_messages accepted gate met fine, ?_⟩
    intro none
    exact ⟨prepare_of_blocked accepted gate met fine none,
      prepare_of_empty accepted gate met fine none⟩
  · intro d
    exact RenderContext.find?_channel _ d
  · intro conditions agree
    exact prepare_withConditions agree

/-- A condition that one of two channels meets: its message is prepared.  With an error behind
    the condition, which only this channel comes to, there is none at all. -/
theorem prepare_of_mixed_stops :
    let rule : AlertRule :=
      { triggers := [.command "kick"], destinations := .list ["staff", "public"]
        conditions := ["channel.name == 'staff'"], template := { content := some "hi" } }
    let broken : AlertRule := { rule with conditions := ["channel.name == 'staff'", ")"] }
    let s : Surroundings :=
      { directory := { channels := [{ id := "1", name := "staff" }, { id := "2", name := "public" }] }
        environment := { tickRate := 20 } }
    let o : Occurrence := { category := "ServerCommandEvent" }
    let base := OccurrenceContext.ofOccurrence o
    [Trigger.command "kick"] ≠ [] ∧
      (rule.targets s).map Destination.id = ["1", "2"] ∧
      (rule.prepare s [.command "kick"] o base).result =
        .deliver (rule.sendingsTo s o base (rule.targets s)) ∧
      (rule.sendingsTo s o base (rule.targets s)).map (·.destination.id) = ["1"] ∧
      (broken.prepare s [.command "kick"] o base).result = .skip .conditionError := by
  intro rule broken s o base
  have accepted : [Trigger.command "kick"] ≠ [] := by decide
  obtain ⟨_, whole, _⟩ := prepare_by_first_stops rule s o base _ accepted
  obtain ⟨_, _, _, separate⟩ := whole (by decide)
  obtain ⟨some, _⟩ := separate (by decide +kernel) (by
    simp only [← verdict_eq_error_iff]
    decide +kernel)
  obtain ⟨_, stopped, _⟩ := prepare_by_first_stops broken s o base _ accepted
  obtain ⟨_, _, error, _⟩ := stopped (by decide)
  refine ⟨accepted, by decide +kernel, some (by decide +kernel), by decide +kernel, error ?_⟩
  simp only [← verdict_eq_error_iff]
  decide +kernel

end AlertRule

end EventAlerts
