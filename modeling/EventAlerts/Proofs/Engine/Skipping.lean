/-
  EventAlerts/Proofs/Engine/Skipping.lean
  =======================================
  **Why nothing is sent** — what it says about the destinations of a rule that it is skipped
  for its conditions, or because its messages are empty.

  Behind the gate, and without an error, one of three things is true of a destination: a
  condition is false there, the message comes out empty, or there is something to send
  (`blocked_or_empty_or_delivers`).  A rule sends nothing if the third is true of none.  It is
  then said to be empty if the second is true of all, and to have failed its conditions in any
  other case.  So failed conditions need not be false at every destination: it is enough that
  they are at one, and that the messages for the others come out empty.
-/
import EventAlerts.Proofs.Engine.Preparation

namespace EventAlerts

open EventAlerts.Expr (Bindings)
open EventAlerts.Rule (Trigger)

/-- Without an error, the first stop is false if any condition is. -/
theorem stopsAtFalse_iff {bindings : Bindings} {conditions : List String}
    (fine : ¬ StopsAtError bindings conditions) :
    StopsAtFalse bindings conditions ↔ ∃ c ∈ conditions, Expr.condition c bindings = .ok false := by
  constructor
  · rintro ⟨before, c, after, rfl, _, stopped⟩
    exact ⟨c, List.mem_append_right before List.mem_cons_self, stopped⟩
  · rintro ⟨c, there, stopped⟩
    cases stop : verdict bindings conditions with
    | holds =>
      have pass := verdict_eq_holds_iff.mp stop c there
      rw [stopped] at pass
      cases pass
    | fails => exact verdict_eq_fails_iff.mp stop
    | error => exact absurd (verdict_eq_error_iff.mp stop) fine

namespace AlertRule

variable (r : AlertRule) (s : Surroundings) (o : Occurrence) (base : OccurrenceContext)

/-- Whether some condition is false at a destination. -/
def BlockedAt (d : Destination) : Prop :=
  ∃ c ∈ r.conditions, Expr.condition c (bindingsAt s o base d) = .ok false

/-- Whether every condition holds at a destination, and the message for it is empty. -/
def EmptyAt (d : Destination) : Prop :=
  (∀ c ∈ r.conditions, Expr.condition c (bindingsAt s o base d) = .ok true) ∧
    (r.sendingTo s o base d).message.isEmpty = true

variable {r s o base} {matched : List Trigger} {d : Destination}

theorem not_blockedAt_of_holds
    (pass : ∀ c ∈ r.conditions, Expr.condition c (bindingsAt s o base d) = .ok true) :
    ¬ r.BlockedAt s o base d := by
  rintro ⟨c, there, stopped⟩
  rw [pass c there] at stopped
  cases stopped

theorem EmptyAt.not_delivers (empty : r.EmptyAt s o base d) : ¬ r.Delivers s o base d := by
  rintro ⟨_, some⟩
  rw [empty.2] at some
  cases some

theorem BlockedAt.not_delivers (blocked : r.BlockedAt s o base d) : ¬ r.Delivers s o base d :=
  fun delivers => not_blockedAt_of_holds delivers.1 blocked

theorem blocked_or_empty_or_delivers
    (fine : ¬ StopsAtError (bindingsAt s o base d) r.conditions) :
    r.BlockedAt s o base d ∨ r.EmptyAt s o base d ∨ r.Delivers s o base d := by
  cases stop : verdict (bindingsAt s o base d) r.conditions with
  | error => exact absurd (verdict_eq_error_iff.mp stop) fine
  | fails => exact Or.inl ((stopsAtFalse_iff fine).mp (verdict_eq_fails_iff.mp stop))
  | holds =>
    have pass := verdict_eq_holds_iff.mp stop
    cases empty : (r.sendingTo s o base d).message.isEmpty with
    | true => exact Or.inr (Or.inl ⟨pass, empty⟩)
    | false => exact Or.inr (Or.inr ⟨pass, empty⟩)

theorem sendingsTo_eq_nil_iff {destinations : List Destination} :
    r.sendingsTo s o base destinations = [] ↔ ∀ d ∈ destinations, ¬ r.Delivers s o base d := by
  simp [sendingsTo, List.filter_eq_nil_iff]

section Open

variable (accepted : matched ≠ []) (gate : ¬ (r.ignoreCancelled = true ∧ o.cancelled = some true))
  (met : r.targets s ≠ [])
  (fine : ∀ d ∈ r.targets s, ¬ StopsAtError (bindingsAt s o base d) r.conditions)
include accepted gate met fine

/-- The three ways in which the result can come out. -/
theorem result_cases :
    ((r.prepare s matched o base).result = .deliver (r.sendingsTo s o base (r.targets s)) ∧
      ∃ d ∈ r.targets s, r.Delivers s o base d) ∨
    ((r.prepare s matched o base).result = .skip .conditionsFailed ∧
      (∃ d ∈ r.targets s, r.BlockedAt s o base d) ∧
      ∀ d ∈ r.targets s, r.BlockedAt s o base d ∨ r.EmptyAt s o base d) ∨
    ((r.prepare s matched o base).result = .skip .empty ∧
      ∀ d ∈ r.targets s, r.EmptyAt s o base d) := by
  have sound : ¬ ∃ d ∈ r.targets s, StopsAtError (bindingsAt s o base d) r.conditions := by
    rintro ⟨d, found, error⟩
    exact fine d found error
  by_cases none : r.sendingsTo s o base (r.targets s) = []
  · have silent := sendingsTo_eq_nil_iff.mp none
    have each : ∀ d ∈ r.targets s, r.BlockedAt s o base d ∨ r.EmptyAt s o base d := by
      intro d found
      rcases blocked_or_empty_or_delivers (fine d found) with blocked | empty | delivers
      · exact Or.inl blocked
      · exact Or.inr empty
      · exact absurd delivers (silent d found)
    refine Or.inr ?_
    by_cases blocked : ∃ d ∈ r.targets s, r.BlockedAt s o base d
    · refine Or.inl ⟨prepare_of_blocked accepted gate met sound none ?_, blocked, each⟩
      obtain ⟨d, found, stop⟩ := blocked
      exact ⟨d, found, (stopsAtFalse_iff (fine d found)).mpr stop⟩
    · refine Or.inr ⟨prepare_of_empty accepted gate met sound none ?_, ?_⟩
      · rintro ⟨d, found, stop⟩
        exact blocked ⟨d, found, (stopsAtFalse_iff (fine d found)).mp stop⟩
      · intro d found
        rcases each d found with here | empty
        · exact absurd ⟨d, found, here⟩ blocked
        · exact empty
  · refine Or.inl ⟨prepare_of_messages accepted gate met sound none, ?_⟩
    have some := mt sendingsTo_eq_nil_iff.mpr none
    push Not at some
    exact some

/-- What the outcome of a rule that passed the gate says about its destinations.

    Its conditions failed if and only if at every destination one of them is false, or the
    destinations are mixed: at some a condition is false, and at the others, of which there is
    one, all conditions hold and the message is empty.  It is empty if and only if at every
    destination all conditions hold and the message is empty.  Otherwise it has messages. -/
theorem outcome_by_destination :
    ((r.prepare s matched o base).result = .skip .conditionsFailed ↔
      (∀ d ∈ r.targets s, r.BlockedAt s o base d) ∨
      ((∃ d ∈ r.targets s, r.BlockedAt s o base d) ∧
        (∃ d ∈ r.targets s, r.EmptyAt s o base d) ∧
        ∀ d ∈ r.targets s, r.BlockedAt s o base d ∨ r.EmptyAt s o base d)) ∧
    ((r.prepare s matched o base).result = .skip .empty ↔
      ∀ d ∈ r.targets s, r.EmptyAt s o base d) ∧
    ((∃ sendings, (r.prepare s matched o base).result = .deliver sendings) ↔
      ∃ d ∈ r.targets s, r.Delivers s o base d) := by
  obtain ⟨first, there⟩ := List.exists_mem_of_ne_nil _ met
  rcases result_cases accepted gate met fine with
    ⟨result, d, found, delivers⟩ | ⟨result, blocked, each⟩ | ⟨result, empty⟩
  · rw [result]
    refine ⟨⟨nofun, ?_⟩, ⟨nofun, ?_⟩, ⟨fun _ => ⟨d, found, delivers⟩, fun _ => ⟨_, rfl⟩⟩⟩
    · rintro (all | ⟨_, _, each⟩)
      · exact absurd delivers (all d found).not_delivers
      · rcases each d found with blocked | empty
        · exact absurd delivers blocked.not_delivers
        · exact absurd delivers empty.not_delivers
    · intro all
      exact absurd delivers (all d found).not_delivers
  · rw [result]
    refine ⟨⟨fun _ => ?_, fun _ => rfl⟩, ⟨nofun, ?_⟩, ⟨nofun, ?_⟩⟩
    · by_cases mixed : ∃ d ∈ r.targets s, r.EmptyAt s o base d
      · exact Or.inr ⟨blocked, mixed, each⟩
      · refine Or.inl fun d found => ?_
        rcases each d found with here | empty
        · exact here
        · exact absurd ⟨d, found, empty⟩ mixed
    · intro all
      obtain ⟨d, found, here⟩ := blocked
      exact absurd here (not_blockedAt_of_holds (all d found).1)
    · rintro ⟨d, found, delivers⟩
      rcases each d found with here | empty
      · exact absurd delivers here.not_delivers
      · exact absurd delivers empty.not_delivers
  · rw [result]
    refine ⟨⟨nofun, ?_⟩, ⟨fun _ => empty, fun _ => rfl⟩, ⟨nofun, ?_⟩⟩
    · rintro (all | ⟨⟨d, found, here⟩, _⟩)
      · exact absurd (all first there) (not_blockedAt_of_holds (empty first there).1)
      · exact absurd here (not_blockedAt_of_holds (empty d found).1)
    · rintro ⟨d, found, delivers⟩
      exact absurd delivers (empty d found).not_delivers

end Open

/-- A rule with one condition, and the name of the actor's world for a message. -/
def worldRule (condition : String) : AlertRule :=
  { triggers := [.category "PlayerJoinEvent"], destinations := .list ["staff", "audit"]
    conditions := [condition], template := { content := some "\x7bworld\x7d" } }

/-- Two channels. -/
def twoChannels : Surroundings :=
  { directory := { channels := [⟨"1", "staff", none⟩, ⟨"2", "audit", none⟩] }
    environment := { tickRate := 20 } }

/-- Without an actor there is no world to name, at neither channel. -/
theorem outcome_by_destination_of_no_world :
    let r := worldRule "true"
    let o : Occurrence := { category := "PlayerJoinEvent" }
    let base : OccurrenceContext := { category := "PlayerJoinEvent" }
    let matched : List Trigger := [.category "PlayerJoinEvent"]
    matched ≠ [] ∧ ¬ (r.ignoreCancelled = true ∧ o.cancelled = some true) ∧
      r.targets twoChannels ≠ [] ∧
      (∀ d ∈ r.targets twoChannels,
        ¬ StopsAtError (bindingsAt twoChannels o base d) r.conditions) ∧
      (r.prepare twoChannels matched o base).result = .skip .empty := by
  intro r o base matched
  have accepted : matched ≠ [] := by decide
  have gate : ¬ (r.ignoreCancelled = true ∧ o.cancelled = some true) := by decide
  have met : r.targets twoChannels ≠ [] := by decide +kernel
  have fine : ∀ d ∈ r.targets twoChannels,
      ¬ StopsAtError (bindingsAt twoChannels o base d) r.conditions := by
    simp only [← verdict_eq_error_iff]
    decide +kernel
  refine ⟨accepted, gate, met, fine, ?_⟩
  obtain ⟨_, emptied, _⟩ := outcome_by_destination accepted gate met fine
  apply emptied.mpr
  simp only [EmptyAt, ← verdict_eq_holds_iff]
  decide +kernel

/-- The conditions are said to have failed, though they hold at one of two destinations. -/
theorem failed_though_one_holds :
    let r := worldRule "channel.name == 'audit'"
    let o : Occurrence := { category := "PlayerJoinEvent" }
    let base : OccurrenceContext := { category := "PlayerJoinEvent" }
    let result := (r.prepare twoChannels [.category "PlayerJoinEvent"] o base).result
    ¬ (r.ignoreCancelled = true ∧ o.cancelled = some true) ∧ r.targets twoChannels ≠ [] ∧
      (∀ d ∈ r.targets twoChannels,
        ¬ StopsAtError (bindingsAt twoChannels o base d) r.conditions) ∧
      result = .skip .conditionsFailed ∧
      ¬ (result = .skip .conditionsFailed ↔
        ∀ d ∈ r.targets twoChannels, r.BlockedAt twoChannels o base d) := by
  intro r o base result
  have failed : result = .skip .conditionsFailed := by decide +kernel
  refine ⟨by decide, by decide +kernel, ?_, failed, ?_⟩
  · simp only [← verdict_eq_error_iff]
    decide +kernel
  · intro meaning
    have audit : (⟨"2", "audit", none⟩ : Destination) ∈ r.targets twoChannels := by decide +kernel
    have blocked := meaning.mp failed _ audit
    refine not_blockedAt_of_holds (verdict_eq_holds_iff.mp ?_) blocked
    decide +kernel

end AlertRule

end EventAlerts
