/-
  EventAlerts/Proofs/Engine/Waiting.lean
  ======================================
  **Messages at gates** — nothing is lost and nothing is doubled while messages are on
  their way.

  Messages that are delivered end up in two places: the first of them in the platform's
  log, and the others, if there are any, as one entry that waits at a gate.  `Progress`
  says so of every outbox with one gate at most for each destination, however its gates
  stand.

  What a piece of work comes to is known beforehand: an `Answer` is its outcome and its
  messages, given the destinations that reject messages.  `Carried` adds to `Progress` that
  the answer is not lost on the way, neither by a message that is sent nor by one that has
  to wait, and `deliver_carried` proves it.
-/
import EventAlerts.Engine.Outbox
import Mathlib.Data.List.Flatten
import Mathlib.Data.List.Nodup

namespace EventAlerts

/-- The messages of an entry that waits. -/
def Paused.sendings (p : Paused) : List Sending := p.next :: p.rest

/-! ### The platform's log -/

namespace Recorder

@[simp] theorem deliveries_send (r : Recorder) (s : Sending) :
    (r.send s).2.deliveries = r.deliveries ++ [s] := by
  simp [send, deliveries]

@[simp] theorem deliveries_logLookups (r : Recorder) (lookups : List Lookup) :
    (r.logLookups lookups).deliveries = r.deliveries := by
  simp [logLookups, deliveries]

end Recorder

/-! ### What is to come of messages -/

/-- The tally after attempts to send messages, if these destinations reject them. -/
def Tally.after (failing : List String) (t : Tally) (messages : List Sending) : Tally :=
  messages.foldl (fun t s => t.count (Recorder.failure? failing s).isSome) t

/-- How a piece of work ends, and the messages it sends on the way. -/
structure Answer where
  outcome : Outcome
  sendings : List Sending := []
  deriving Repr, DecidableEq

/-- What a preparation comes to. -/
def Preparation.answer (failing : List String) (p : Preparation) : Answer :=
  match p.result with
  | .skip outcome => { outcome := outcome }
  | .deliver sendings =>
    { outcome := (Tally.after failing {} sendings).outcome, sendings := sendings }

/-- What an entry that waits comes to. -/
def Paused.answer (failing : List String) (p : Paused) : Answer :=
  { outcome := (p.tally.after failing p.sendings).outcome, sendings := p.sendings }

namespace Outbox

/-! ### Gates -/

/-- Everything that waits, gate by gate. -/
def waiting (o : Outbox) : List Paused := o.gates.flatMap Gate.waiting

/-- A destination has one gate at most. -/
def Distinct (o : Outbox) : Prop := (o.gates.map Gate.destination).Nodup

variable {o : Outbox}

theorem destinations_setGate (o : Outbox) (new : Gate) :
    (o.setGate new).gates.map Gate.destination = o.gates.map Gate.destination := by
  simp only [Outbox.setGate, List.map_map]
  apply List.map_congr_left
  intro g _
  simp only [Function.comp]
  split
  · rename_i meant
    exact meant.symm
  · rfl

theorem Distinct.setGate (distinct : o.Distinct) (new : Gate) : (o.setGate new).Distinct := by
  unfold Distinct
  rw [destinations_setGate]
  exact distinct

/-- The gate of a destination is at one place, and putting another in place of it changes
    nothing else. -/
theorem setGate_split (distinct : o.Distinct) {id : String} {g : Gate}
    (found : o.gate? id = some g) :
    ∃ before after, o.gates = before ++ g :: after ∧
      ∀ new : Gate, new.destination = g.destination →
        (o.setGate new).gates = before ++ new :: after := by
  obtain ⟨_, before, after, split, _⟩ := List.find?_eq_some_iff_append.mp found
  refine ⟨before, after, split, ?_⟩
  intro new same
  unfold Distinct at distinct
  rw [split, List.map_append, List.map_cons, List.nodup_append, List.nodup_cons] at distinct
  obtain ⟨_, ⟨behind, _⟩, ahead⟩ := distinct
  have kept : ∀ l : List Gate, (∀ other ∈ l, other.destination ≠ g.destination) →
      l.map (fun old => if old.destination = new.destination then new else old) = l := by
    intro l others
    conv_rhs => rw [← List.map_id l]
    apply List.map_congr_left
    intro other member
    rw [same, if_neg (others other member)]
    rfl
  simp only [Outbox.setGate, split, List.map_append, List.map_cons]
  rw [kept before ?_, kept after ?_, if_pos same.symm]
  · intro other member equal
    exact behind (List.mem_map.mpr ⟨other, member, equal⟩)
  · intro other member
    exact ahead _ (List.mem_map_of_mem member) _ List.mem_cons_self

/-- What waits at one gate is a stretch of all that waits. -/
theorem waiting_setGate (distinct : o.Distinct) {id : String} {g : Gate}
    (found : o.gate? id = some g) :
    ∃ before after, o.waiting = before ++ (g.waiting ++ after) ∧
      ∀ new : Gate, new.destination = g.destination →
        (o.setGate new).waiting = before ++ (new.waiting ++ after) := by
  obtain ⟨before, after, split, changed⟩ := setGate_split distinct found
  refine ⟨before.flatMap Gate.waiting, after.flatMap Gate.waiting, ?_, ?_⟩
  · simp only [waiting, split, List.flatMap_append, List.flatMap_cons]
  · intro new same
    simp only [waiting, changed new same, List.flatMap_append, List.flatMap_cons]

theorem waiting_setGate_ajar (distinct : o.Distinct) {id : String} {g : Gate}
    (found : o.gate? id = some g) (ajar : Bool) :
    (o.setGate { g with ajar := ajar }).waiting = o.waiting := by
  obtain ⟨before, after, all, changed⟩ := waiting_setGate distinct found
  rw [changed { g with ajar := ajar } rfl, all]

/-- An entry that comes to a gate is added to what waits. -/
theorem waiting_setGate_push (distinct : o.Distinct) {id : String} {g : Gate}
    (found : o.gate? id = some g) (p : Paused) :
    (o.setGate { g with waiting := g.waiting ++ [p] }).waiting.Perm (p :: o.waiting) := by
  obtain ⟨before, after, all, changed⟩ := waiting_setGate distinct found
  rw [changed { g with waiting := g.waiting ++ [p] } rfl, all, List.append_assoc,
    List.singleton_append, ← List.append_assoc, ← List.append_assoc]
  exact List.perm_middle

/-- An entry that a gate lets through is taken away from what waits. -/
theorem waiting_setGate_pop (distinct : o.Distinct) {id : String} {g : Gate}
    (found : o.gate? id = some g) {p : Paused} {others : List Paused}
    (first : g.waiting = p :: others) :
    o.waiting.Perm (p :: (o.setGate { g with waiting := others }).waiting) := by
  obtain ⟨before, after, all, changed⟩ := waiting_setGate distinct found
  rw [changed { g with waiting := others } rfl, all, first, List.cons_append]
  exact List.perm_middle

theorem Distinct.hold (distinct : o.Distinct) (id : String) : (o.hold id).Distinct := by
  unfold Distinct Outbox.hold
  rw [List.map_append, List.nodup_append]
  refine ⟨distinct.sublist (List.filter_sublist.map _), by simp, ?_⟩
  intro a old b new
  obtain ⟨g, member, rfl⟩ := List.mem_map.mp old
  have other : g.destination ≠ id := by simpa using (List.mem_filter.mp member).2
  rw [List.map_singleton, List.mem_singleton] at new
  rw [new]
  exact other

/-- A new gate in place of an old one only takes away from what waits. -/
theorem waiting_hold_sublist (o : Outbox) (id : String) :
    (o.hold id).waiting.Sublist o.waiting := by
  simp only [waiting, Outbox.hold, List.flatMap_append, List.flatMap_singleton, List.append_nil]
  exact List.filter_sublist.flatMap Gate.waiting

/-- What `release` lets through was waiting, and waits no longer. -/
theorem release_spec (distinct : o.Distinct) (id : String) :
    (o.release id).2.Distinct ∧ (o.release id).2.platform = o.platform ∧
      o.waiting.Perm ((o.release id).1.toList ++ (o.release id).2.waiting) := by
  cases found : o.gate? id with
  | none =>
    have nothing : o.release id = (none, o) := by simp only [release, found]
    rw [nothing]
    exact ⟨distinct, rfl, List.Perm.refl _⟩
  | some g =>
    cases first : g.waiting with
    | nil =>
      have opened : o.release id = (none, o.setGate { g with ajar := true }) := by
        simp only [release, found, first]
      rw [opened]
      refine ⟨distinct.setGate _, rfl, ?_⟩
      rw [waiting_setGate_ajar distinct found]
      exact List.Perm.refl _
    | cons p others =>
      have through : o.release id = (some p, o.setGate { g with waiting := others }) := by
        simp only [release, found, first]
      rw [through]
      exact ⟨distinct.setGate _, rfl, waiting_setGate_pop distinct found first⟩

/-! ### Delivering -/

/-- What became of the messages of a piece of work: some were sent, in order, and the
    others wait together. -/
structure Progress (o : Outbox) (ticket : Ticket) (messages : List Sending) (o' : Outbox)
    (sent : List Sending) (left : Option Paused) : Prop where
  distinct : o'.Distinct
  recorded : o'.platform.deliveries = o.platform.deliveries ++ sent
  all : messages = sent ++ (left.map Paused.sendings).getD []
  ticket : ∀ p ∈ left, p.ticket = ticket
  waiting : o'.waiting.Perm (left.toList ++ o.waiting)

/-- A message that is sent comes before what becomes of the messages after it. -/
theorem Progress.after_send {ticket : Ticket} {s : Sending} {rest sent : List Sending}
    {o' : Outbox} {left : Option Paused}
    (progress : Progress (o.send s).2 ticket rest o' sent left) :
    Progress o ticket (s :: rest) o' (s :: sent) left where
  distinct := progress.distinct
  recorded := by
    rw [progress.recorded]
    simp [Outbox.send]
  all := by rw [progress.all, List.cons_append]
  ticket := progress.ticket
  waiting := progress.waiting

/-- Without messages nothing happens. -/
theorem Progress.of_none {o' : Outbox} (distinct : o'.Distinct) (ticket : Ticket)
    (recorded : o'.platform.deliveries = o.platform.deliveries)
    (waiting : o'.waiting = o.waiting) : Progress o ticket [] o' [] none where
  distinct := distinct
  recorded := by rw [recorded, List.append_nil]
  all := rfl
  ticket := by
    intro p member
    cases member
  waiting := by
    rw [waiting]
    exact List.Perm.refl _

/-- What messages on their way do not change. -/
structure Alike (o o' : Outbox) : Prop where
  directory : o'.platform.directory = o.platform.directory
  failing : o'.platform.failing = o.platform.failing
  gates : o'.gates.map Gate.destination = o.gates.map Gate.destination

theorem Alike.trans {o' o'' : Outbox} (first : Alike o o') (second : Alike o' o'') :
    Alike o o'' where
  directory := second.directory.trans first.directory
  failing := second.failing.trans first.failing
  gates := second.gates.trans first.gates

theorem alike_send (o : Outbox) (s : Sending) : Alike o (o.send s).2 := ⟨rfl, rfl, rfl⟩

theorem alike_setGate (o : Outbox) (g : Gate) : Alike o (o.setGate g) :=
  ⟨rfl, rfl, o.destinations_setGate g⟩

theorem alike_release (o : Outbox) (id : String) : Alike o (o.release id).2 := by
  unfold release
  split
  · exact ⟨rfl, rfl, rfl⟩
  · split
    · exact o.alike_setGate _
    · exact o.alike_setGate _

theorem Alike.gates_eq_nil {o' : Outbox} (alike : Alike o o') : o'.gates = [] ↔ o.gates = [] := by
  rw [← List.map_eq_nil_iff, alike.gates, List.map_eq_nil_iff]

/-- What became of an answer: it was given, or what is left comes to it. -/
structure Carried (o : Outbox) (ticket : Ticket) (answer : Answer) (o' : Outbox)
    (outcome? : Option Outcome) (sent : List Sending) (left : Option Paused) : Prop
    extends Progress o ticket answer.sendings o' sent left where
  alike : Alike o o'
  ended : left = none → outcome? = some answer.outcome
  waits : ∀ p ∈ left, outcome? = none ∧ (p.answer o.platform.failing).outcome = answer.outcome

theorem Carried.after_send {ticket : Ticket} {outcome : Outcome} {s : Sending}
    {rest sent : List Sending} {o' : Outbox} {outcome? : Option Outcome} {left : Option Paused}
    (carried : Carried (o.send s).2 ticket { outcome := outcome, sendings := rest } o' outcome?
      sent left) :
    Carried o ticket { outcome := outcome, sendings := s :: rest } o' outcome? (s :: sent) left
    where
  toProgress := carried.toProgress.after_send
  alike := (o.alike_send s).trans carried.alike
  ended := carried.ended
  waits := carried.waits

section Deliver

variable {ticket : Ticket} {t : Tally} {s : Sending} {rest : List Sending} {g : Gate}

theorem deliver_of_no_gate (found : o.gate? s.destination.id = none) :
    o.deliver ticket t (s :: rest) =
      (o.send s).2.deliver ticket (t.count (o.send s).1.isSome) rest := by
  simp only [deliver, found]

theorem deliver_of_ajar (found : o.gate? s.destination.id = some g) (ajar : g.ajar = true) :
    o.deliver ticket t (s :: rest) =
      ((o.setGate { g with ajar := false }).send s).2.deliver ticket
        (t.count ((o.setGate { g with ajar := false }).send s).1.isSome) rest := by
  simp only [deliver, found, ajar, if_true]

theorem deliver_of_closed (found : o.gate? s.destination.id = some g) (closed : g.ajar = false) :
    o.deliver ticket t (s :: rest) =
      (none, o.setGate { g with
        waiting := g.waiting ++ [{ ticket := ticket, tally := t, next := s, rest := rest }] }) := by
  simp only [deliver, found, closed, Bool.false_eq_true, if_false]

end Deliver

theorem deliver_carried (ticket : Ticket) (messages : List Sending) (t : Tally)
    (distinct : o.Distinct) :
    ∃ sent left,
      Carried o ticket
        { outcome := (t.after o.platform.failing messages).outcome, sendings := messages }
        (o.deliver ticket t messages).2 (o.deliver ticket t messages).1 sent left := by
  induction messages generalizing o t with
  | nil =>
    refine ⟨[], none, Progress.of_none distinct ticket rfl rfl, ⟨rfl, rfl, rfl⟩, fun _ => rfl, ?_⟩
    rintro p ⟨⟩
  | cons s rest ih =>
    cases found : o.gate? s.destination.id with
    | none =>
      rw [deliver_of_no_gate found]
      obtain ⟨sent, left, carried⟩ :=
        ih (o := (o.send s).2) (t.count (o.send s).1.isSome) distinct
      exact ⟨s :: sent, left, carried.after_send⟩
    | some g =>
      cases ajar : g.ajar with
      | true =>
        rw [deliver_of_ajar found ajar]
        -- the gate closes behind the message
        have closed := distinct.setGate { g with ajar := false }
        obtain ⟨sent, left, carried⟩ :=
          ih (o := ((o.setGate { g with ajar := false }).send s).2)
            (t.count ((o.setGate { g with ajar := false }).send s).1.isSome) closed
        have passed := carried.after_send
        refine ⟨s :: sent, left, ?_, (o.alike_setGate _).trans passed.alike, passed.ended,
          passed.waits⟩
        refine ⟨passed.distinct, passed.recorded, passed.all, passed.ticket, ?_⟩
        rw [← waiting_setGate_ajar distinct found false]
        exact passed.waiting
      | false =>
        rw [deliver_of_closed found ajar]
        refine ⟨[], some { ticket := ticket, tally := t, next := s, rest := rest }, ?_,
          o.alike_setGate _, ?_, ?_⟩
        · refine ⟨distinct.setGate _, (List.append_nil _).symm, rfl, ?_, ?_⟩
          · rintro p ⟨⟩
            rfl
          · exact waiting_setGate_push distinct found _
        · rintro ⟨⟩
        · rintro p ⟨⟩
          exact ⟨rfl, rfl⟩

theorem resume_carried (p : Paused) (distinct : o.Distinct) :
    ∃ sent left, Carried o p.ticket (p.answer o.platform.failing) (o.resume p).2 (o.resume p).1
      sent left := by
  obtain ⟨sent, left, carried⟩ := deliver_carried (o := (o.send p.next).2) p.ticket p.rest
    (p.tally.count (o.send p.next).1.isSome) distinct
  exact ⟨p.next :: sent, left, carried.after_send⟩

theorem carryOut_carried (ticket : Ticket) (p : Preparation) (distinct : o.Distinct) :
    ∃ sent left, Carried o ticket (p.answer o.platform.failing) (o.carryOut ticket p).2
      (o.carryOut ticket p).1 sent left := by
  unfold carryOut Preparation.answer
  cases result : p.result with
  | skip outcome =>
    have quiet : Progress o ticket [] { o with platform := o.platform.logLookups p.lookups } []
        none := by
      refine Progress.of_none ?_ ticket ?_ rfl
      · exact distinct
      · exact Recorder.deliveries_logLookups _ _
    refine ⟨[], none, quiet, ⟨rfl, rfl, rfl⟩, fun _ => rfl, ?_⟩
    rintro p ⟨⟩
  | deliver sendings =>
    obtain ⟨sent, left, carried⟩ := deliver_carried
      (o := { o with platform := o.platform.logLookups p.lookups }) ticket sendings {} distinct
    refine ⟨sent, left, ⟨carried.distinct, ?_, carried.all, carried.ticket, carried.waiting⟩,
      ⟨carried.alike.directory, carried.alike.failing, carried.alike.gates⟩, carried.ended,
      carried.waits⟩
    rw [carried.recorded, Recorder.deliveries_logLookups]

theorem resume_progress (p : Paused) (distinct : o.Distinct) :
    ∃ sent left, Progress o p.ticket p.sendings (o.resume p).2 sent left := by
  obtain ⟨sent, left, carried⟩ := resume_carried p distinct
  exact ⟨sent, left, carried.toProgress⟩

/-- The messages of a preparation; none if there is nothing to send. -/
def sendingsOf (p : Preparation) : List Sending :=
  match p.result with
  | .skip _ => []
  | .deliver sendings => sendings

theorem sendings_answer (failing : List String) (p : Preparation) :
    (p.answer failing).sendings = sendingsOf p := by
  unfold Preparation.answer sendingsOf
  cases p.result <;> rfl

theorem carryOut_progress (ticket : Ticket) (p : Preparation) (distinct : o.Distinct) :
    ∃ sent left, Progress o ticket (sendingsOf p) (o.carryOut ticket p).2 sent left := by
  obtain ⟨sent, left, carried⟩ := carryOut_carried ticket p distinct
  rw [← sendings_answer o.platform.failing p]
  exact ⟨sent, left, carried.toProgress⟩

end Outbox

end EventAlerts
