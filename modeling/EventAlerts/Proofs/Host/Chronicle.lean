/-
  EventAlerts/Proofs/Host/Chronicle.lean
  ======================================
  **The chronicle of a host** — a host, a subscription, and the memory of how the
  registries came about, over any run of what can happen to them.

  A host does not keep what was being initialized when a registry was created.  The
  chronicle does, and it notes which registries are younger than the last sweep: the
  last `register` that took effect, or the last time a poller looked.  With this memory
  `Kept.carried` says of every registry whether it carries the handler:

    * a registry that was there at the last sweep carries it unless its own category is
      blacklisted;
    * a younger one carries it if an observer heard of its creation, and neither its
      category nor the one that was being initialized is blacklisted.

  `subscription_after_events` reads all that users of a subscription may rely on off
  this invariant.  `carried_after_blacklisted_birth` is about the registries that are
  created while a blacklisted category is being initialized: nothing about the registry
  itself tells them from others, so the next sweep takes them in.
-/
import EventAlerts.Proofs.Host.Following

namespace EventAlerts

open EventAlerts.Time (Span)

/-! ### Events and the memory of them -/

/-- What can happen to a host and a subscription to it. -/
inductive HostEvent
  /-- A category is used. -/
  | use (category : String)
  /-- A category is used while another is being initialized. -/
  | useDuring (initializing category : String)
  | register
  | unregister
  /-- Time goes on; a poller, if there is one, looks for registries when that is due. -/
  | wait (start stop : Span)
  deriving Repr, DecidableEq

/-- The creation of a registry. -/
structure Birth where
  category : String
  /-- The category that was being initialized. -/
  initializing : String
  deriving Repr, DecidableEq

/-- A host and a subscription, with the memory of how the registries came about. -/
structure Chronicle where
  host : Host
  subscription : Subscription
  /-- One for each registry, in order. -/
  births : List Birth := []
  /-- The births since the handler was last subscribed to every registry. -/
  recent : List Birth := []
  deriving Repr, DecidableEq

namespace Chronicle

/-- A fresh host of a kind, and a subscription that has not followed it yet. -/
def start (kind : Observation) (handler : HandlerId) (interval : Span) : Chronicle :=
  { host := { observation := kind }, subscription := Subscription.ofHandler handler interval }

def create (c : Chronicle) (initializing category : String) : Chronicle :=
  let born : List Birth :=
    if c.host.has category then [] else [{ category := category, initializing := initializing }]
  { c with
    host := (c.host.createDuring initializing category).1
    births := c.births ++ born
    recent := c.recent ++ born }

/-- A `register` takes effect if the subscription did not follow the host before and
    does so afterwards. -/
def register (c : Chronicle) : Chronicle :=
  let (_, s, h) := c.subscription.register c.host
  { c with
    host := h
    subscription := s
    recent := if !c.subscription.registered && s.registered then [] else c.recent }

def unregister (c : Chronicle) : Chronicle :=
  let (s, h) := c.subscription.unregister c.host
  { c with host := h, subscription := s }

def wait (c : Chronicle) (start stop : Span) : Chronicle :=
  let (s, h) := c.subscription.run c.host start stop
  { c with
    host := h
    subscription := s
    recent := if c.subscription.looks start stop then [] else c.recent }

def step (c : Chronicle) : HostEvent → Chronicle
  | .use category => c.create category category
  | .useDuring initializing category => c.create initializing category
  | .register => c.register
  | .unregister => c.unregister
  | .wait start stop => c.wait start stop

def after (c : Chronicle) (events : List HostEvent) : Chronicle := events.foldl step c

theorem handler_step (c : Chronicle) (event : HostEvent) :
    (c.step event).subscription.handler = c.subscription.handler := by
  cases event with
  | use category => rfl
  | useDuring initializing category => rfl
  | register => exact c.subscription.handler_register c.host
  | unregister => exact c.subscription.handler_unregister c.host
  | wait start stop => exact c.subscription.handler_run c.host start stop

theorem handler_after (c : Chronicle) (events : List HostEvent) :
    (c.after events).subscription.handler = c.subscription.handler := by
  induction events generalizing c with
  | nil => rfl
  | cons event rest ih => exact (ih (c.step event)).trans (handler_step c event)

/-! ### The invariant -/

/-- What holds of a chronicle between events. -/
structure Kept (c : Chronicle) : Prop where
  following : Following c.host c.subscription
  births : c.births.map Birth.category = c.host.registries.map Registry.category
  recent : c.recent <:+ c.births
  carried : c.subscription.registered = true → ∀ r ∈ c.host.registries,
    (c.subscription.handler ∈ r.handlers ↔
      isBlacklisted r.category = false ∧ ∀ b ∈ c.recent, b.category = r.category →
        c.host.observation = .supported ∧ isBlacklisted b.initializing = false)

variable {c : Chronicle}

theorem kept_start (kind : Observation) (handler : HandlerId) (interval : Span) :
    (start kind handler interval).Kept where
  following := Following.start kind handler interval
  births := rfl
  recent := List.suffix_rfl
  carried := by
    intro registered
    cases registered

namespace Kept

/-- A category without a registry has no birth. -/
theorem unborn (k : c.Kept) {category : String} (absent : c.host.has category = false) :
    ∀ b ∈ c.births, b.category ≠ category := by
  intro b born same
  have listed : b.category ∈ c.host.registries.map Registry.category := by
    rw [← k.births]
    exact List.mem_map_of_mem born
  obtain ⟨r, member, named⟩ := List.mem_map.mp listed
  exact Host.has_eq_false_iff.mp absent r member (named.trans same)

theorem create (k : c.Kept) (initializing category : String) :
    (c.create initializing category).Kept := by
  have following := k.following.createDuring initializing category
  cases present : c.host.has category with
  | true =>
    have same : c.create initializing category = c := by
      simp [Chronicle.create, present, Host.createDuring_of_has present]
    rw [same]
    exact k
  | false =>
    have created : c.create initializing category =
        { c with
          host := { c.host with
            registries := c.host.registries ++
              [c.host.newborn c.subscription.handler initializing category] }
          births := c.births ++ [{ category := category, initializing := initializing }]
          recent := c.recent ++ [{ category := category, initializing := initializing }] } := by
      simp [Chronicle.create, present, k.following.createDuring_of_absent present]
    rw [k.following.createDuring_of_absent present] at following
    rw [created]
    have fresh : ∀ r ∈ c.host.registries, r.category ≠ category :=
      Host.has_eq_false_iff.mp present
    exact {
      following := following
      births := by
        rw [List.map_append, List.map_append, k.births]
        rfl
      recent := by
        obtain ⟨old, split⟩ := k.recent
        exact ⟨old, by rw [← split, List.append_assoc]⟩
      carried := by
        intro registered r member
        rcases List.mem_append.mp member with old | new
        · -- the new birth is of another category than an old registry
          rw [k.carried registered r old]
          refine and_congr_right fun _ => ?_
          constructor
          · intro all b young same
            rcases List.mem_append.mp young with earlier | now
            · exact all b earlier same
            · rw [List.mem_singleton.mp now] at same
              exact absurd same.symm (fresh r old)
          · intro all b earlier
            exact all b (List.mem_append_left _ earlier)
        · -- no earlier birth is of the new registry's category
          rw [List.mem_singleton.mp new, k.following.mem_newborn_iff]
          have named : (c.host.newborn c.subscription.handler initializing category).category =
              category := rfl
          constructor
          · rintro ⟨⟨_, supported⟩, white, outer⟩
            refine ⟨white, ?_⟩
            intro b young same
            rcases List.mem_append.mp young with earlier | now
            · exact absurd (same.trans named) (k.unborn present b (k.recent.mem earlier))
            · rw [List.mem_singleton.mp now]
              exact ⟨supported, outer⟩
          · rintro ⟨white, all⟩
            obtain ⟨supported, outer⟩ :=
              all _ (List.mem_append_right _ (List.mem_singleton.mpr rfl)) rfl
            exact ⟨⟨registered, supported⟩, white, outer⟩ }

/-- A sweep takes in every registry that is not blacklisted, however it came about. -/
theorem carried_of_swept (k : c.Kept) {r : Registry}
    (member : r ∈ c.host.registries.map (Registry.swept c.subscription.handler)) :
    c.subscription.handler ∈ r.handlers ↔ isBlacklisted r.category = false := by
  obtain ⟨before, present, rfl⟩ := List.mem_map.mp member
  rw [Registry.category_swept]
  exact Registry.mem_swept_iff (k.following.allowed before present)

theorem births_swept (k : c.Kept) :
    c.births.map Birth.category =
      (c.host.registries.map (Registry.swept c.subscription.handler)).map Registry.category := by
  rw [k.births, List.map_map]
  exact List.map_congr_left fun r _ => (Registry.category_swept c.subscription.handler r).symm

/-- After a sweep no birth is recent. -/
theorem of_sweep (k : c.Kept) {h : Host} {s : Subscription} (following : Following h s)
    (named : s.handler = c.subscription.handler)
    (registries : h.registries = c.host.registries.map (Registry.swept c.subscription.handler)) :
    Kept { c with host := h, subscription := s, recent := [] } where
  following := following
  births := by
    rw [registries]
    exact k.births_swept
  recent := List.nil_suffix
  carried := by
    intro _ r member
    rw [registries] at member
    rw [named, k.carried_of_swept member]
    simp

theorem register (k : c.Kept) : c.register.Kept := by
  have following := k.following.register
  cases registered : c.subscription.registered with
  | true =>
    have same : c.register = c := by
      simp [Chronicle.register, Subscription.register_of_registered registered, registered]
    rw [same]
    exact k
  | false =>
    cases failed : c.subscription.failed with
    | true =>
      have same : c.register = c := by
        simp [Chronicle.register, Subscription.register_of_failed registered failed, registered]
      rw [same]
      exact k
    | false =>
      unfold Chronicle.register
      cases kind : c.host.observation with
      | supported =>
        rw [Subscription.register_of_supported registered failed kind k.following.idle]
          at following ⊢
        simp only [registered, Bool.not_false, Bool.and_self, if_true]
        exact k.of_sweep following rfl rfl
      | unsupported =>
        rw [Subscription.register_of_unsupported registered failed kind k.following.idle]
          at following ⊢
        simp only [registered, Bool.not_false, Bool.and_self, if_true]
        exact k.of_sweep following rfl rfl
      | inaccessible =>
        rw [Subscription.register_of_inaccessible registered failed kind] at following ⊢
        exact {
          following := following
          births := k.births
          recent := by simpa [registered] using k.recent
          carried := by
            intro now
            rw [registered] at now
            cases now }

theorem unregister (k : c.Kept) : c.unregister.Kept := by
  have following := k.following.unregister
  unfold Chronicle.unregister
  cases registered : c.subscription.registered with
  | false =>
    rw [Subscription.unregister_of_apart registered]
    exact k
  | true =>
    rw [k.following.unregister_of_registered registered] at following ⊢
    exact {
      following := following
      births := by
        rw [k.births, List.map_map]
        rfl
      recent := k.recent
      carried := by
        intro now
        cases now }

theorem wait (k : c.Kept) (start stop : Span) : (c.wait start stop).Kept := by
  have following := k.following.run start stop
  unfold Chronicle.wait
  rw [Subscription.run_of_idle k.following.idle] at following ⊢
  cases looks : c.subscription.looks start stop with
  | true =>
    rw [looks] at following
    exact k.of_sweep following rfl rfl
  | false =>
    rw [looks] at following
    exact { following := following, births := k.births, recent := k.recent, carried := k.carried }

theorem step (k : c.Kept) (event : HostEvent) : (c.step event).Kept := by
  cases event with
  | use category => exact k.create category category
  | useDuring initializing category => exact k.create initializing category
  | register => exact k.register
  | unregister => exact k.unregister
  | wait start stop => exact k.wait start stop

theorem after (k : c.Kept) (events : List HostEvent) : (c.after events).Kept := by
  induction events generalizing c with
  | nil => exact k
  | cons event rest ih => exact ih (k.step event)

/-! ### What no event changes -/

theorem observation_step (k : c.Kept) (event : HostEvent) :
    (c.step event).host.observation = c.host.observation := by
  cases event with
  | use category => exact k.following.observation_createDuring category category
  | useDuring initializing category =>
    exact k.following.observation_createDuring initializing category
  | register => exact k.following.observation_register
  | unregister => exact k.following.observation_unregister
  | wait start stop => exact k.following.observation_run start stop

theorem failed_step (k : c.Kept) (event : HostEvent) :
    (c.step event).subscription.failed =
      (c.subscription.failed ||
        (decide (c.host.observation = .inaccessible) && decide (event = .register))) := by
  cases event with
  | use category => simp [Chronicle.step, Chronicle.create]
  | useDuring initializing category => simp [Chronicle.step, Chronicle.create]
  | register =>
    simp only [decide_true, Bool.and_true]
    exact k.following.failed_register
  | unregister =>
    simp only [reduceCtorEq, decide_false, Bool.and_false, Bool.or_false]
    exact c.subscription.failed_unregister c.host
  | wait start stop =>
    simp only [reduceCtorEq, decide_false, Bool.and_false, Bool.or_false]
    exact c.subscription.failed_run c.host start stop

theorem observation_after (k : c.Kept) (events : List HostEvent) :
    (c.after events).host.observation = c.host.observation := by
  induction events generalizing c with
  | nil => rfl
  | cons event rest ih => exact (ih (k.step event)).trans (k.observation_step event)

theorem failed_after (k : c.Kept) (events : List HostEvent) :
    (c.after events).subscription.failed = true ↔
      c.subscription.failed = true ∨
        (c.host.observation = .inaccessible ∧ HostEvent.register ∈ events) := by
  induction events generalizing c with
  | nil => simp [Chronicle.after]
  | cons event rest ih =>
    have later : (c.after (event :: rest)).subscription.failed = true ↔ _ := ih (k.step event)
    rw [later, k.observation_step event, k.failed_step event, List.mem_cons]
    simp only [Bool.or_eq_true, Bool.and_eq_true, decide_eq_true_eq]
    grind

end Kept

/-! ### What can be relied on -/

/-- What users of a subscription may rely on after any events on a host of any kind.

    The handler is on every registry once at most and on none that is blacklisted.
    Away from the host it is on none, and nobody observes.  On a host that reports its
    registries it has one observer, and is on every registry that is not blacklisted
    but those created since the last sweep while a blacklisted category was being
    initialized.  On a host that does not report them it is on every registry that is
    not blacklisted and was there at the last sweep.  A failure is for ever. -/
theorem subscription_after_events (kind : Observation) (handler : HandlerId)
    (interval : Span) (events : List HostEvent) :
    let c := (start kind handler interval).after events
    c.births.map Birth.category = c.host.registries.map Registry.category ∧
    (∀ r ∈ c.host.registries, r.handlers.count handler ≤ 1 ∧
      (isBlacklisted r.category = true → handler ∉ r.handlers)) ∧
    (c.subscription.registered = false →
      c.host.observers = [] ∧ ∀ r ∈ c.host.registries, handler ∉ r.handlers) ∧
    (c.subscription.registered = true → kind = .supported →
      (∃ id, c.host.observers = [{ id := id, reaction := .subscribe handler }]) ∧
      ∀ r ∈ c.host.registries, isBlacklisted r.category = false →
        (handler ∈ r.handlers ↔
          ¬ ∃ b ∈ c.recent, b.category = r.category ∧ isBlacklisted b.initializing = true)) ∧
    (c.subscription.registered = true → kind = .unsupported →
      ∀ r ∈ c.host.registries, isBlacklisted r.category = false →
        (handler ∈ r.handlers ↔ r.category ∉ c.recent.map Birth.category)) ∧
    (kind = .inaccessible → c.subscription.registered = false) ∧
    (c.subscription.failed = true ↔ kind = .inaccessible ∧ HostEvent.register ∈ events) ∧
    (c.subscription.failed = true → ∀ later : List HostEvent,
      let d := c.after later
      d.subscription.failed = true ∧ d.subscription.registered = false ∧
        d.subscription.register d.host = (false, d.subscription, d.host)) := by
  intro c
  have k : c.Kept := (kept_start kind handler interval).after events
  have named : c.subscription.handler = handler := handler_after _ events
  have observation : c.host.observation = kind :=
    (kept_start kind handler interval).observation_after events
  have carried := k.carried
  rw [named, observation] at carried
  refine ⟨k.births, ?once, ?apart, ?supported, ?unsupported, ?inaccessible, ?failed, ?ever⟩
  case once =>
    intro r member
    rw [← named]
    refine ⟨k.following.once r member, ?_⟩
    intro black present
    rw [k.following.allowed r member present] at black
    cases black
  case apart =>
    intro apart
    obtain ⟨unobserved, _, bare⟩ := k.following.apart apart
    rw [← named]
    exact ⟨by rw [k.following.observers, unobserved]; rfl, bare⟩
  case supported =>
    intro registered supported
    constructor
    · rcases k.following.registered registered with ⟨_, observed, _⟩ | ⟨unsupported, _⟩
      · obtain ⟨id, some⟩ := Option.isSome_iff_exists.mp observed
        refine ⟨id, ?_⟩
        rw [k.following.observers, some, ← named]
        rfl
      · rw [observation, supported] at unsupported
        cases unsupported
    · intro r member white
      rw [carried registered r member]
      simp [white, supported]
  case unsupported =>
    intro registered unsupported r member white
    rw [carried registered r member]
    simp [white, unsupported]
  case inaccessible =>
    intro inaccessible
    cases registered : c.subscription.registered with
    | false => rfl
    | true =>
      rw [inaccessible] at observation
      rcases k.following.registered registered with ⟨other, _⟩ | ⟨other, _⟩ <;>
        (rw [observation] at other; cases other)
  case failed =>
    refine ((kept_start kind handler interval).failed_after events).trans ?_
    simp [start, Subscription.ofHandler]
  case ever =>
    intro failed later d
    have still : d.subscription.failed = true := (k.failed_after later).mpr (Or.inl failed)
    have apart := ((k.after later).following.failed still).1
    exact ⟨still, apart, Subscription.register_of_failed apart still⟩

/-- Which registries carry the handler of those that were created while a blacklisted
    category was being initialized: those that a sweep has met since, while the
    subscription follows the host, unless they are blacklisted themselves. -/
theorem carried_after_blacklisted_birth (kind : Observation) (handler : HandlerId)
    (interval : Span) (events : List HostEvent) :
    let c := (start kind handler interval).after events
    ∀ b ∈ c.births, isBlacklisted b.initializing = true →
      (handler ∈ c.host.handlersOf b.category ↔
        c.subscription.registered = true ∧ isBlacklisted b.category = false ∧ b ∉ c.recent) := by
  intro c b born black
  have k : c.Kept := (kept_start kind handler interval).after events
  have named : c.subscription.handler = handler := handler_after _ events
  have listed : b.category ∈ c.host.registries.map Registry.category := by
    rw [← k.births]
    exact List.mem_map_of_mem born
  obtain ⟨r, member, same⟩ := List.mem_map.mp listed
  rw [← same, Host.handlersOf_of_mem k.following.distinct member, ← named]
  cases registered : c.subscription.registered with
  | false =>
    have bare := (k.following.apart registered).2.2 r member
    simp [bare]
  | true =>
    have distinct : (c.births.map Birth.category).Nodup := by
      rw [k.births]
      exact k.following.distinct
    rw [k.carried registered r member]
    constructor
    · rintro ⟨white, all⟩
      refine ⟨rfl, white, ?_⟩
      intro young
      have outer := (all b young same.symm).2
      rw [black] at outer
      cases outer
    · rintro ⟨_, white, old⟩
      refine ⟨white, ?_⟩
      intro b' young same'
      have one : b' = b := List.inj_on_of_nodup_map distinct (k.recent.mem young) born
        (same'.trans same)
      rw [one] at young
      exact absurd young old

/-- That a registry was created while a blacklisted category was being initialized does
    not keep the handler away from it for good. -/
theorem blacklisted_birth_is_not_excluded :
    ¬ ∀ (kind : Observation) (handler : HandlerId) (interval : Span)
        (events : List HostEvent), kind ≠ .inaccessible →
      let c := (start kind handler interval).after events
      ∀ b ∈ c.births, isBlacklisted b.initializing = true →
        handler ∉ c.host.handlersOf b.category := by
  intro excluded
  refine excluded .supported "engine" 0
    [.useDuring "org.bukkit.event.player.PlayerChatEvent" "a.Late", .register] (by decide)
    { category := "a.Late", initializing := "org.bukkit.event.player.PlayerChatEvent" }
    ?_ ?_ ?_
  · decide
  · decide
  · decide

end Chronicle

end EventAlerts
