/-
  EventAlerts/Proofs/Engine/Attempts.lean
  =======================================
  **Attempts to send** — which messages a rule tries to send, and how its outcome counts
  them.

  Delivering does not look at what became of the messages before.  So the attempts are the
  messages that were prepared, in their order, whichever destinations reject theirs; only the
  outcome depends on these.  It counts every attempt once, either as sent or as failed
  (`Tally.after_eq`).  An outcome that counts anything comes from delivering, for nothing
  that a rule is skipped for is such an outcome, and it is never empty (`prepare_cases`).
-/
import EventAlerts.Proofs.Engine.Answering
import EventAlerts.Proofs.Engine.Preparation

namespace EventAlerts

open EventAlerts.Rule (Trigger)

/-! ### Counting attempts -/

theorem Recorder.isSome_failure? (failing : List String) (m : Sending) :
    (failure? failing m).isSome = decide (m.destination.id ∈ failing) := by
  unfold failure?
  by_cases rejects : m.destination.id ∈ failing
  · simp [rejects]
  · simp [rejects]

/-- Every attempt is counted, and those to destinations that reject it as failed. -/
theorem Tally.after_eq (failing : List String) (t : Tally) (messages : List Sending) :
    (t.after failing messages).failed =
        t.failed + messages.countP (fun m => m.destination.id ∈ failing) ∧
      (t.after failing messages).sent + (t.after failing messages).failed =
        t.sent + t.failed + messages.length := by
  induction messages generalizing t with
  | nil => exact ⟨rfl, rfl⟩
  | cons m rest ih =>
    obtain ⟨failed, both⟩ := ih (t.count (Recorder.failure? failing m).isSome)
    have next : t.after failing (m :: rest) =
        (t.count (Recorder.failure? failing m).isSome).after failing rest := rfl
    rw [next, both, failed, Recorder.isSome_failure?, List.countP_cons, List.length_cons]
    by_cases rejects : m.destination.id ∈ failing
    · simp only [rejects, decide_true, Tally.count, if_true]
      omega
    · simp only [rejects, decide_false, Tally.count, Bool.false_eq_true, if_false]
      omega

/-! ### The calls of a rule -/

theorem Recorder.platform_deliver (r : Recorder) (t : Tally) (messages : List Sending) :
    (r.deliver t messages).2 = { r with calls := r.calls ++ messages.map .sending } := by
  induction messages generalizing r t with
  | nil => simp [Recorder.deliver]
  | cons m rest ih =>
    rw [Recorder.deliver, ih]
    simp [Recorder.send]

theorem Recorder.platform_carryOut (r : Recorder) (p : Preparation) :
    (r.carryOut p).2 =
      { r with calls := r.calls ++ (p.lookups.map .lookup ++
          (Outbox.sendingsOf p).map .sending) } := by
  unfold Recorder.carryOut Outbox.sendingsOf
  cases p.result with
  | skip outcome => simp [Recorder.logLookups]
  | deliver sendings => simp [Recorder.logLookups, Recorder.platform_deliver]

theorem Recorder.outcome_carryOut_of_skip (r : Recorder) {p : Preparation} {outcome : Outcome}
    (result : p.result = .skip outcome) : (r.carryOut p).1 = outcome := by
  rw [(r.carryOut_eq p).1, Preparation.answer, result]

theorem Recorder.outcome_carryOut_of_deliver (r : Recorder) {p : Preparation}
    {sendings : List Sending} (result : p.result = .deliver sendings) :
    (r.carryOut p).1 = (Tally.after r.failing {} sendings).outcome := by
  rw [(r.carryOut_eq p).1, Preparation.answer, result]

/-! ### What is prepared -/

theorem Outbox.deliver_of_mem_sendingsOf {p : Preparation} {m : Sending}
    (attempted : m ∈ sendingsOf p) : ∃ sendings, p.result = .deliver sendings ∧ m ∈ sendings := by
  unfold sendingsOf at attempted
  split at attempted
  · cases attempted
  · rename_i sendings result
    exact ⟨sendings, result, attempted⟩

namespace AlertRule

variable {r : AlertRule} {s : Surroundings} {o : Occurrence} {base : OccurrenceContext}
  {matched : List Trigger}

/-- What the message for a destination is rendered from. -/
def scopeAt (s : Surroundings) (o : Occurrence) (base : OccurrenceContext) (d : Destination) :
    Render.Scope :=
  { bindings := bindingsAt s o base d, actor := base.actor, bot := s.directory.identity
    directory := s.directory, environment := s.environment, now := s.now }

theorem sendingTo_eq (d : Destination) :
    r.sendingTo s o base d =
      { destination := d
        identity := r.template.identity.map (scopeAt s o base d).sender
        message := ((scopeAt s o base d).render r.template).message } :=
  rfl

/-- A rule is skipped, but not for an outcome that counts messages, or there is a message. -/
theorem prepare_cases (r : AlertRule) (s : Surroundings) (matched : List Trigger)
    (o : Occurrence) (base : OccurrenceContext) :
    (∃ outcome, (r.prepare s matched o base).result = .skip outcome ∧
      ∀ sent failed, outcome ≠ .delivered sent failed) ∨
    ∃ first others, (r.prepare s matched o base).result = .deliver (first :: others) := by
  unfold prepare
  split
  · exact Or.inl ⟨.notMatched, rfl, nofun⟩
  split
  · exact Or.inl ⟨.cancelled, rfl, nofun⟩
  simp only
  split
  · exact Or.inl ⟨.noDestinations, rfl, nofun⟩
  split
  · exact Or.inl ⟨.conditionError, rfl, nofun⟩
  · rename_i blocked _
    refine Or.inl ⟨_, rfl, ?_⟩
    cases blocked with
    | true => exact nofun
    | false => exact nofun
  · rename_i sendings some _
    cases sendings with
    | nil => exact (some rfl).elim
    | cons first others => exact Or.inr ⟨first, others, rfl⟩

theorem mem_sendingsOf {m : Sending}
    (attempted : m ∈ Outbox.sendingsOf (r.prepare s matched o base)) :
    m = r.sendingTo s o base m.destination := by
  obtain ⟨sendings, result, there⟩ := Outbox.deliver_of_mem_sendingsOf attempted
  rw [sendings_of_deliver result] at there
  obtain ⟨d, _, rfl⟩ := List.mem_map.mp there
  rfl

/-- The attempts of a rule, and what its outcome says of them.

    The calls that a run adds are the lookups and then one attempt for each message that was
    prepared, in order, under an identity exactly if the template has one that is enabled.
    They are the same whichever destinations reject messages.  The outcome counts messages
    exactly if there was an attempt, and then it counts all of them, and as failed those to
    the destinations that reject them. -/
theorem attempts_of_run (r : AlertRule) (s : Surroundings) (matched : List Trigger)
    (o : Occurrence) (base : OccurrenceContext) :
    let p := r.prepare s matched o base
    let attempts := Outbox.sendingsOf p
    (∀ sendings, p.result = .deliver sendings → attempts = sendings) ∧
    (∀ m ∈ attempts,
      m.message = ((scopeAt s o base m.destination).render r.template).message ∧
      m.identity = r.template.identity.map (scopeAt s o base m.destination).sender ∧
      (m.identity ≠ none ↔ ∃ w, r.template.webhook = some w ∧ w.enabled = true)) ∧
    ∀ platform : Recorder,
      let ended := r.run s matched o base platform
      ended.2 = { platform with
        calls := platform.calls ++ (p.lookups.map .lookup ++ attempts.map .sending) } ∧
      (∀ failing, (r.run s matched o base { platform with failing := failing }).2.calls =
        ended.2.calls) ∧
      (∀ outcome, p.result = .skip outcome → attempts = [] ∧ ended.1 = outcome) ∧
      ((∃ sent failed, ended.1 = .delivered sent failed) ↔ attempts ≠ []) ∧
      ∀ sent failed, ended.1 = .delivered sent failed →
        sent + failed = attempts.length ∧
        failed = attempts.countP fun m => m.destination.id ∈ platform.failing := by
  intro p attempts
  refine ⟨?_, ?_, ?_⟩
  · intro sendings result
    simp only [attempts, Outbox.sendingsOf, result]
  · intro m attempted
    have whole := mem_sendingsOf attempted
    rw [sendingTo_eq] at whole
    rw [whole]
    refine ⟨rfl, rfl, ?_⟩
    cases webhook : r.template.webhook with
    | none => simp [MessageTemplate.identity, webhook]
    | some w => cases enabled : w.enabled <;> simp [MessageTemplate.identity, webhook, enabled]
  · intro platform ended
    have calls : ∀ platform : Recorder, (r.run s matched o base platform).2 =
        { platform with
          calls := platform.calls ++ (p.lookups.map .lookup ++ attempts.map .sending) } :=
      fun platform => platform.platform_carryOut p
    have skipped : ∀ outcome, p.result = .skip outcome → attempts = [] ∧ ended.1 = outcome := by
      intro outcome result
      refine ⟨?_, platform.outcome_carryOut_of_skip result⟩
      simp only [attempts, Outbox.sendingsOf, result]
    refine ⟨calls platform, ?_, skipped, ?_⟩
    · intro failing
      rw [calls, calls]
    rcases r.prepare_cases s matched o base with ⟨outcome, result, uncounted⟩ | ⟨m, others, result⟩
    · obtain ⟨none, outcome_eq⟩ := skipped outcome result
      rw [none, outcome_eq]
      refine ⟨⟨?_, fun some => absurd rfl some⟩, ?_⟩
      · rintro ⟨sent, failed, same⟩
        exact absurd same (uncounted sent failed)
      · intro sent failed same
        exact absurd same (uncounted sent failed)
    · have all : attempts = m :: others := by
        simp only [attempts, p, Outbox.sendingsOf, result]
      have outcome_eq : ended.1 = (Tally.after platform.failing {} (m :: others)).outcome :=
        platform.outcome_carryOut_of_deliver result
      obtain ⟨failed_eq, both⟩ := Tally.after_eq platform.failing {} (m :: others)
      rw [all, outcome_eq]
      refine ⟨⟨fun _ => List.cons_ne_nil m others, fun _ => ⟨_, _, rfl⟩⟩, ?_⟩
      rintro sent failed ⟨⟩
      exact ⟨by simpa using both, by simpa using failed_eq⟩

end AlertRule

end EventAlerts
