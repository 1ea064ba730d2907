/-
  EventAlerts/Proofs/Host/Following.lean
  ======================================
  **A host and the subscription that follows it** — what holds of the two together
  after every operation on either of them.

  The invariant `Following` ties three things together: the state of the subscription,
  the observers of the host, and the handlers that each registry carries.  Every
  operation has an equation that says all it does (`register_of_supported` and its
  siblings), and from these equations every operation keeps the invariant.
-/
import EventAlerts.Host.Subscription
import EventAlerts.Proofs.Host.Creation

namespace EventAlerts

open EventAlerts.Time (Span)

/-! ### What each operation does -/

namespace Subscription

/-- The observer that a subscription installs. -/
def observing (s : Subscription) (id : ObserverId) : Observer :=
  { id := id, reaction := .subscribe s.handler }

/-- Whether a poller looks for new registries in a stretch of time. -/
def looks (s : Subscription) (start stop : Span) : Bool :=
  match s.poller with
  | none => false
  | some p => (p.run s.pollInterval start stop).1

variable {s : Subscription} {h : Host}

theorem register_of_registered (registered : s.registered = true) :
    s.register h = (true, s, h) := by
  simp [register, registered]

theorem register_of_failed (apart : s.registered = false) (failed : s.failed = true) :
    s.register h = (false, s, h) := by
  simp [register, apart, failed]

theorem register_of_supported (apart : s.registered = false) (sound : s.failed = false)
    (supported : h.observation = .supported) (idle : h.initializing = []) :
    s.register h =
      (true, { s with registered := true, observer := some h.installed },
        { h with
          registries := h.registries.map (Registry.swept s.handler)
          observers := h.observers ++ [s.observing h.installed]
          installed := h.installed + 1 }) := by
  have installed := Host.observe_of_supported supported (.subscribe s.handler)
  have swept := Host.subscribeAll_of_idle
    (h := { h with
      observers := h.observers ++ [s.observing h.installed]
      installed := h.installed + 1 }) idle s.handler
  unfold register
  rw [if_neg (Bool.eq_false_iff.mp apart), if_neg (Bool.eq_false_iff.mp sound), installed]
  exact congrArg (fun host => (true, { s with registered := true, observer := some h.installed },
    host)) swept

theorem register_of_unsupported (apart : s.registered = false) (sound : s.failed = false)
    (unsupported : h.observation = .unsupported) (idle : h.initializing = []) :
    s.register h =
      (true, { s with registered := true, poller := some {} },
        { h with registries := h.registries.map (Registry.swept s.handler) }) := by
  have refused : h.observe (.subscribe s.handler) = .error .observationUnsupported := by
    simp [Host.observe, unsupported]
  unfold register
  rw [if_neg (Bool.eq_false_iff.mp apart), if_neg (Bool.eq_false_iff.mp sound), refused]
  exact congrArg (fun host => (true, { s with registered := true, poller := some {} }, host))
    (Host.subscribeAll_of_idle idle s.handler)

theorem register_of_inaccessible (apart : s.registered = false) (sound : s.failed = false)
    (inaccessible : h.observation = .inaccessible) :
    s.register h = (false, { s with failed := true }, h) := by
  simp [register, apart, sound, Host.observe, inaccessible]

theorem unregister_of_apart (apart : s.registered = false) : s.unregister h = (s, h) := by
  simp [unregister, apart]

theorem run_of_idle (idle : h.initializing = []) (start stop : Span) :
    s.run h start stop =
      ({ s with poller := s.poller.map fun p => (p.run s.pollInterval start stop).2 },
        if s.looks start stop then
          { h with registries := h.registries.map (Registry.swept s.handler) }
        else h) := by
  unfold run looks
  cases none : s.poller with
  | none =>
    simp only [Option.map_none, Bool.false_eq_true, if_false]
    rw [← none]
  | some p => simp only [Option.map_some, Host.subscribeAll_of_idle idle]

@[simp] theorem handler_register (s : Subscription) (h : Host) :
    (s.register h).2.1.handler = s.handler := by
  unfold register
  split
  · rfl
  · split
    · rfl
    · split <;> rfl

@[simp] theorem handler_unregister (s : Subscription) (h : Host) :
    (s.unregister h).1.handler = s.handler := by
  unfold unregister
  split <;> rfl

@[simp] theorem handler_run (s : Subscription) (h : Host) (start stop : Span) :
    (s.run h start stop).1.handler = s.handler := by
  unfold run
  split <;> rfl

@[simp] theorem failed_unregister (s : Subscription) (h : Host) :
    (s.unregister h).1.failed = s.failed := by
  unfold unregister
  split <;> rfl

@[simp] theorem failed_run (s : Subscription) (h : Host) (start stop : Span) :
    (s.run h start stop).1.failed = s.failed := by
  unfold run
  split <;> rfl

end Subscription

/-! ### The invariant -/

/-- How a host and a subscription belong together between operations. -/
structure Following (h : Host) (s : Subscription) : Prop where
  idle : h.initializing = []
  /-- A category has one registry at most. -/
  distinct : (h.registries.map Registry.category).Nodup
  /-- A registry carries the handler once at most. -/
  once : ∀ r ∈ h.registries, r.handlers.count s.handler ≤ 1
  allowed : ∀ r ∈ h.registries, s.handler ∈ r.handlers → isBlacklisted r.category = false
  /-- The subscription's observer is the only one. -/
  observers : h.observers = (s.observer.map s.observing).toList
  apart : s.registered = false →
    s.observer = none ∧ s.poller = none ∧ ∀ r ∈ h.registries, s.handler ∉ r.handlers
  registered : s.registered = true →
    (h.observation = .supported ∧ s.observer.isSome = true ∧ s.poller = none) ∨
      (h.observation = .unsupported ∧ s.observer = none ∧ s.poller.isSome = true)
  failed : s.failed = true → s.registered = false ∧ h.observation = .inaccessible

namespace Following

variable {h : Host} {s : Subscription}

theorem start (kind : Observation) (handler : HandlerId) (interval : Span) :
    Following { observation := kind } (Subscription.ofHandler handler interval) where
  idle := rfl
  distinct := List.nodup_nil
  once := by
    intro r member
    cases member
  allowed := by
    intro r member
    cases member
  observers := rfl
  apart := by
    intro _
    refine ⟨rfl, rfl, ?_⟩
    intro r member
    cases member
  registered := by
    intro registered
    cases registered
  failed := by
    intro failed
    cases failed

theorem subscribing (f : Following h s) :
    ∀ o ∈ h.observers, o.reaction = .subscribe s.handler := by
  intro o member
  rw [f.observers] at member
  simp only [Option.mem_toList, Option.map_eq_some_iff] at member
  obtain ⟨id, _, rfl⟩ := member
  rfl

/-- Somebody observes exactly while the subscription follows a host that allows it. -/
theorem isEmpty_observers (f : Following h s) :
    h.observers.isEmpty = !(s.registered && decide (h.observation = .supported)) := by
  rw [f.observers]
  cases registered : s.registered with
  | false =>
    rw [(f.apart registered).1]
    rfl
  | true =>
    rcases f.registered registered with ⟨supported, observed, _⟩ | ⟨unsupported, unobserved, _⟩
    · obtain ⟨id, some⟩ := Option.isSome_iff_exists.mp observed
      simp [some, supported]
    · simp [unobserved, unsupported]

/-- The registry that is created next: it carries the handler if the subscription
    observes the host and neither category is blacklisted. -/
theorem mem_newborn_iff (f : Following h s) (initializing category : String) :
    s.handler ∈ (h.newborn s.handler initializing category).handlers ↔
      (s.registered = true ∧ h.observation = .supported) ∧
        isBlacklisted category = false ∧ isBlacklisted initializing = false := by
  simp only [Host.newborn, f.isEmpty_observers]
  split
  · rename_i carried
    simpa [and_assoc] using carried
  · rename_i bare
    simpa [and_assoc] using bare

theorem createDuring_of_absent (f : Following h s) {category : String}
    (absent : h.has category = false) (initializing : String) :
    h.createDuring initializing category =
      ({ h with registries := h.registries ++ [h.newborn s.handler initializing category] },
        []) :=
  Host.createDuring_of_absent f.idle f.subscribing absent initializing

/-- No occurrence meets the handler twice. -/
theorem count_handlersOf_le (f : Following h s) (category : String) :
    (h.handlersOf category).count s.handler ≤ 1 := by
  cases present : h.has category with
  | true =>
    obtain ⟨r, member, rfl⟩ := Host.has_eq_true_iff.mp present
    rw [Host.handlersOf_of_mem f.distinct member]
    exact f.once r member
  | false =>
    rw [Host.handlersOf_of_absent present]
    exact Nat.zero_le 1

/-! ### Every operation keeps it -/

/-- A sweep over the registries keeps what holds of each of them. -/
theorem of_swept (f : Following h s) {h' : Host} {s' : Subscription}
    (same : s'.handler = s.handler)
    (registries : h'.registries = h.registries.map (Registry.swept s.handler))
    (idle : h'.initializing = [])
    (observers : h'.observers = (s'.observer.map s'.observing).toList)
    (registered : s'.registered = true)
    (kind : (h'.observation = .supported ∧ s'.observer.isSome = true ∧ s'.poller = none) ∨
      (h'.observation = .unsupported ∧ s'.observer = none ∧ s'.poller.isSome = true))
    (sound : s'.failed = false) : Following h' s' where
  idle := idle
  distinct := by
    rw [registries, List.map_map]
    have kept : Registry.category ∘ Registry.swept s.handler = Registry.category :=
      funext (Registry.category_swept s.handler)
    rw [kept]
    exact f.distinct
  once := by
    intro r member
    rw [registries] at member
    obtain ⟨before, present, rfl⟩ := List.mem_map.mp member
    rw [same]
    exact Registry.count_swept_le (f.once before present)
  allowed := by
    intro r member carried
    rw [registries] at member
    obtain ⟨before, present, rfl⟩ := List.mem_map.mp member
    rw [same] at carried
    rw [Registry.category_swept]
    exact (Registry.mem_swept_iff (f.allowed before present)).mp carried
  observers := observers
  apart := by
    intro apart
    rw [registered] at apart
    cases apart
  registered := fun _ => kind
  failed := by
    intro failed
    rw [sound] at failed
    cases failed

theorem createDuring (f : Following h s) (initializing category : String) :
    Following (h.createDuring initializing category).1 s := by
  cases present : h.has category with
  | true =>
    rw [Host.createDuring_of_has present]
    exact f
  | false =>
    rw [f.createDuring_of_absent present]
    have fresh : ∀ r ∈ h.registries, r.category ≠ category := Host.has_eq_false_iff.mp present
    exact {
      idle := f.idle
      distinct := by
        rw [List.map_append, List.nodup_append]
        refine ⟨f.distinct, by simp, ?_⟩
        intro a old b new
        obtain ⟨r, member, rfl⟩ := List.mem_map.mp old
        rw [List.map_singleton, List.mem_singleton] at new
        rw [new]
        exact fresh r member
      once := by
        intro r member
        rcases List.mem_append.mp member with old | new
        · exact f.once r old
        · rw [List.mem_singleton.mp new]
          simp only [Host.newborn]
          split <;> simp
      allowed := by
        intro r member carried
        rcases List.mem_append.mp member with old | new
        · exact f.allowed r old carried
        · rw [List.mem_singleton.mp new] at carried ⊢
          exact ((f.mem_newborn_iff initializing category).mp carried).2.1
      observers := f.observers
      apart := by
        intro apart
        obtain ⟨unobserved, unpolled, bare⟩ := f.apart apart
        refine ⟨unobserved, unpolled, ?_⟩
        intro r member carried
        rcases List.mem_append.mp member with old | new
        · exact bare r old carried
        · rw [List.mem_singleton.mp new] at carried
          have registered := ((f.mem_newborn_iff initializing category).mp carried).1.1
          rw [apart] at registered
          cases registered
      registered := f.registered
      failed := f.failed }

theorem register (f : Following h s) : Following (s.register h).2.2 (s.register h).2.1 := by
  cases registered : s.registered with
  | true =>
    rw [Subscription.register_of_registered registered]
    exact f
  | false =>
    obtain ⟨unobserved, unpolled, _⟩ := f.apart registered
    cases failed : s.failed with
    | true =>
      rw [Subscription.register_of_failed registered failed]
      exact f
    | false =>
      cases kind : h.observation with
      | supported =>
        rw [Subscription.register_of_supported registered failed kind f.idle]
        refine f.of_swept rfl rfl f.idle ?_ rfl (Or.inl ⟨kind, rfl, unpolled⟩) failed
        simp [f.observers, unobserved, Subscription.observing]
      | unsupported =>
        rw [Subscription.register_of_unsupported registered failed kind f.idle]
        refine f.of_swept rfl rfl f.idle ?_ rfl (Or.inr ⟨kind, unobserved, rfl⟩) failed
        simp [f.observers, unobserved]
      | inaccessible =>
        rw [Subscription.register_of_inaccessible registered failed kind]
        exact { f with failed := fun _ => ⟨registered, kind⟩ }

/-- A subscription that ends takes its observer and every trace of the handler away. -/
theorem unregister_of_registered (f : Following h s) (registered : s.registered = true) :
    s.unregister h =
      ({ s with registered := false, observer := none, poller := none },
        { h with
          observers := []
          registries := h.registries.map fun r => r.unregister s.handler }) := by
  have observers := f.observers
  unfold Subscription.unregister
  rw [if_pos registered]
  cases observed : s.observer with
  | none =>
    rw [observed] at observers
    simp [Host.unsubscribeAll, show h.observers = [] from observers]
  | some id =>
    rw [observed] at observers
    simp [Host.unsubscribeAll, Host.stopObserving,
      show h.observers = [s.observing id] from observers, Subscription.observing]

theorem unregister (f : Following h s) : Following (s.unregister h).2 (s.unregister h).1 := by
  cases registered : s.registered with
  | false =>
    rw [Subscription.unregister_of_apart registered]
    exact f
  | true =>
    rw [f.unregister_of_registered registered]
    have bare : ∀ r ∈ h.registries.map (fun r => r.unregister s.handler),
        s.handler ∉ r.handlers := by
      intro r member
      obtain ⟨before, _, rfl⟩ := List.mem_map.mp member
      exact before.not_mem_unregister s.handler
    exact {
      idle := f.idle
      distinct := by
        rw [List.map_map]
        exact f.distinct
      once := by
        intro r member
        rw [List.count_eq_zero.mpr (bare r member)]
        exact Nat.zero_le 1
      allowed := fun r member carried => absurd carried (bare r member)
      observers := rfl
      apart := fun _ => ⟨rfl, rfl, bare⟩
      registered := by
        intro still
        cases still
      failed := fun failed => ⟨rfl, (f.failed failed).2⟩ }

theorem not_failed (f : Following h s) (registered : s.registered = true) :
    s.failed = false := by
  cases failed : s.failed with
  | false => rfl
  | true =>
    have apart := (f.failed failed).1
    rw [registered] at apart
    cases apart

/-- Only a subscription that follows its host looks for registries. -/
theorem registered_of_looks (f : Following h s) {start stop : Span}
    (looks : s.looks start stop = true) :
    s.registered = true ∧ h.observation = .unsupported ∧ s.observer = none := by
  cases registered : s.registered with
  | false =>
    have unpolled := (f.apart registered).2.1
    simp [Subscription.looks, unpolled] at looks
  | true =>
    rcases f.registered registered with ⟨_, _, unpolled⟩ | ⟨unsupported, unobserved, _⟩
    · simp [Subscription.looks, unpolled] at looks
    · exact ⟨rfl, unsupported, unobserved⟩

theorem run (f : Following h s) (start stop : Span) :
    Following (s.run h start stop).2 (s.run h start stop).1 := by
  rw [Subscription.run_of_idle f.idle]
  cases looks : s.looks start stop with
  | true =>
    obtain ⟨registered, unsupported, unobserved⟩ := f.registered_of_looks looks
    have polled : s.poller.isSome = true := by
      rcases f.registered registered with ⟨supported, _, _⟩ | ⟨_, _, polled⟩
      · rw [unsupported] at supported
        cases supported
      · exact polled
    refine f.of_swept rfl rfl f.idle f.observers registered (Or.inr ⟨unsupported, unobserved, ?_⟩)
      (f.not_failed registered)
    simpa using polled
  | false =>
    exact { f with
      apart := by
        intro apart
        obtain ⟨unobserved, unpolled, bare⟩ := f.apart apart
        exact ⟨unobserved, by simp [unpolled], bare⟩
      registered := by
        intro registered
        simpa using f.registered registered }

/-- The first use of a category meets the handler if the subscription observes the host and
    neither category is blacklisted. -/
theorem mem_handlersOf_first_use (f : Following h s) {category : String}
    (absent : h.has category = false) (initializing : String) :
    s.handler ∈ (h.createDuring initializing category).1.handlersOf category ↔
      (s.registered = true ∧ h.observation = .supported) ∧
        isBlacklisted category = false ∧ isBlacklisted initializing = false := by
  have distinct := (f.createDuring initializing category).distinct
  rw [f.createDuring_of_absent absent] at distinct ⊢
  have created : h.newborn s.handler initializing category ∈
      h.registries ++ [h.newborn s.handler initializing category] :=
    List.mem_append_right _ List.mem_cons_self
  rw [← f.mem_newborn_iff initializing category, ← Host.handlersOf_of_mem distinct created]
  rfl

/-! ### What no operation changes -/

theorem observation_createDuring (f : Following h s) (initializing category : String) :
    (h.createDuring initializing category).1.observation = h.observation := by
  cases present : h.has category with
  | true => rw [Host.createDuring_of_has present]
  | false => rw [f.createDuring_of_absent present]

theorem observation_register (f : Following h s) :
    (s.register h).2.2.observation = h.observation := by
  cases registered : s.registered with
  | true => rw [Subscription.register_of_registered registered]
  | false =>
    cases failed : s.failed with
    | true => rw [Subscription.register_of_failed registered failed]
    | false =>
      cases kind : h.observation with
      | supported =>
        rw [Subscription.register_of_supported registered failed kind f.idle]
        exact kind
      | unsupported =>
        rw [Subscription.register_of_unsupported registered failed kind f.idle]
        exact kind
      | inaccessible =>
        rw [Subscription.register_of_inaccessible registered failed kind]
        exact kind

theorem observation_unregister (f : Following h s) :
    (s.unregister h).2.observation = h.observation := by
  cases registered : s.registered with
  | true => rw [f.unregister_of_registered registered]
  | false => rw [Subscription.unregister_of_apart registered]

theorem observation_run (f : Following h s) (start stop : Span) :
    (s.run h start stop).2.observation = h.observation := by
  rw [Subscription.run_of_idle f.idle]
  cases s.looks start stop <;> rfl

/-- A subscription fails when it is to follow a host that cannot be reached, and at no
    other time. -/
theorem failed_register (f : Following h s) :
    (s.register h).2.1.failed = (s.failed || decide (h.observation = .inaccessible)) := by
  cases registered : s.registered with
  | true =>
    rw [Subscription.register_of_registered registered]
    rcases f.registered registered with ⟨kind, _⟩ | ⟨kind, _⟩ <;> simp [kind]
  | false =>
    cases failed : s.failed with
    | true =>
      rw [Subscription.register_of_failed registered failed]
      simp [failed]
    | false =>
      cases kind : h.observation with
      | supported =>
        rw [Subscription.register_of_supported registered failed kind f.idle]
        simp [failed]
      | unsupported =>
        rw [Subscription.register_of_unsupported registered failed kind f.idle]
        simp [failed]
      | inaccessible =>
        rw [Subscription.register_of_inaccessible registered failed kind]
        rfl

end Following

end EventAlerts
