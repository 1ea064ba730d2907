/-
  EventAlerts/Proofs/Host/Creation.lean
  =====================================
  **What a host's operations do to its registries** — one equation for each operation
  on a host whose observers all subscribe one handler.

  Between operations no category is being initialized.  Subscribing to every registry
  is then a map over the registries, and the creation of a registry puts one behind the
  others and leaves the rest of the host as it is.  Whether the new registry carries
  the handler is decided while its category is being initialized, and looks at both:
  the new category and the one that is being initialized.
-/
import EventAlerts.Host.Registry
import Mathlib.Data.List.Nodup

namespace EventAlerts

variable {handler : HandlerId}

/-! ### One registry -/

namespace Registry

@[simp] theorem category_registerIfAbsent (r : Registry) (handler : HandlerId) :
    (r.registerIfAbsent handler).category = r.category := by
  unfold registerIfAbsent
  split <;> rfl

theorem registerIfAbsent_of_mem {r : Registry} (present : handler ∈ r.handlers) :
    r.registerIfAbsent handler = r := by
  unfold registerIfAbsent
  exact if_pos present

theorem mem_registerIfAbsent (r : Registry) (handler : HandlerId) :
    handler ∈ (r.registerIfAbsent handler).handlers := by
  unfold registerIfAbsent
  split
  · assumption
  · exact List.mem_append_right _ (List.mem_singleton.mpr rfl)

@[simp] theorem registerIfAbsent_registerIfAbsent (r : Registry) (handler : HandlerId) :
    (r.registerIfAbsent handler).registerIfAbsent handler = r.registerIfAbsent handler :=
  registerIfAbsent_of_mem (mem_registerIfAbsent r handler)

/-- The check and the insertion are one step, so a handler never comes in twice. -/
theorem count_registerIfAbsent_le {r : Registry} (once : r.handlers.count handler ≤ 1) :
    (r.registerIfAbsent handler).handlers.count handler ≤ 1 := by
  unfold registerIfAbsent
  split
  · exact once
  · rename_i absent
    have none : r.handlers.count handler = 0 := List.count_eq_zero.mpr absent
    simp [register, none]

theorem not_mem_unregister (r : Registry) (handler : HandlerId) :
    handler ∉ (r.unregister handler).handlers := by
  simp [unregister]

/-- The registry after its host subscribed a handler to every registry. -/
def swept (handler : HandlerId) (r : Registry) : Registry :=
  if isBlacklisted r.category then r else r.registerIfAbsent handler

@[simp] theorem category_swept (handler : HandlerId) (r : Registry) :
    (r.swept handler).category = r.category := by
  unfold swept
  split
  · rfl
  · exact category_registerIfAbsent r handler

@[simp] theorem swept_swept (handler : HandlerId) (r : Registry) :
    (r.swept handler).swept handler = r.swept handler := by
  by_cases black : isBlacklisted r.category = true <;> simp [swept, black]

theorem count_swept_le {r : Registry} (once : r.handlers.count handler ≤ 1) :
    (r.swept handler).handlers.count handler ≤ 1 := by
  unfold swept
  split
  · exact once
  · exact count_registerIfAbsent_le once

/-- Whatever a registry carried before, after a sweep its category alone decides. -/
theorem mem_swept_iff {r : Registry}
    (allowed : handler ∈ r.handlers → isBlacklisted r.category = false) :
    handler ∈ (r.swept handler).handlers ↔ isBlacklisted r.category = false := by
  unfold swept
  split
  · rename_i black
    constructor
    · exact allowed
    · intro white
      rw [black] at white
      cases white
  · rename_i white
    constructor
    · intro _
      exact Bool.eq_false_iff.mpr white
    · intro _
      exact mem_registerIfAbsent r handler

end Registry

/-! ### Subscribing -/

namespace Host

theorem has_eq_false_iff {h : Host} {category : String} :
    h.has category = false ↔ ∀ r ∈ h.registries, r.category ≠ category := by
  simp [has, registry?]

theorem has_eq_true_iff {h : Host} {category : String} :
    h.has category = true ↔ ∃ r ∈ h.registries, r.category = category := by
  simp [has, registry?]

/-- Where a category has one registry at most, its handlers are those of that registry. -/
theorem handlersOf_of_mem {h : Host} (distinct : (h.registries.map Registry.category).Nodup)
    {r : Registry} (member : r ∈ h.registries) : h.handlersOf r.category = r.handlers := by
  have found : h.registry? r.category = some r := by
    unfold registry?
    cases seen : h.registries.find? fun r' => r'.category = r.category with
    | none =>
      have missing := List.find?_eq_none.mp seen r member
      simp at missing
    | some r' =>
      have same : r'.category = r.category := by simpa using List.find?_some seen
      rw [List.inj_on_of_nodup_map distinct (List.mem_of_find?_eq_some seen) member same]
  simp [handlersOf, found]

theorem handlersOf_of_absent {h : Host} {category : String} (absent : h.has category = false) :
    h.handlersOf category = [] := by
  have missing : h.registry? category = none := by simpa [has] using absent
  simp [handlersOf, missing]

theorem subscribe_of_idle {h : Host} (idle : h.initializing = []) (handler : HandlerId)
    (category : String) :
    h.subscribe handler category =
      { h with
        registries := h.registries.map fun r =>
          if r.category = category then r.swept handler else r } := by
  by_cases black : isBlacklisted category = true
  · have kept : h.registries.map (fun r =>
        if r.category = category then r.swept handler else r) = h.registries := by
      refine List.map_congr_left ?_ |>.trans (List.map_id _)
      intro r _
      split
      · rename_i same
        simp [Registry.swept, same, black]
      · rfl
    simp [subscribe, admits, black, kept]
  · have changed : ∀ r ∈ h.registries,
        (if r.category = category then r.registerIfAbsent handler else r) =
          if r.category = category then r.swept handler else r := by
      intro r _
      split
      · rename_i same
        simp [Registry.swept, same, black]
      · rfl
    simp only [subscribe, admits, idle, List.any_nil, Bool.not_false, Bool.and_true, black,
      registerIfAbsent, change, if_true, List.map_congr_left changed]

theorem foldl_subscribe (categories : List String) {h : Host} (idle : h.initializing = []) :
    categories.foldl (fun h c => h.subscribe handler c) h =
      { h with
        registries := h.registries.map fun r =>
          if r.category ∈ categories then r.swept handler else r } := by
  induction categories generalizing h with
  | nil => simp
  | cons c rest ih =>
    rw [List.foldl_cons, ih (by rw [subscribe_of_idle idle]; exact idle),
      subscribe_of_idle idle, List.map_map]
    congr 1
    refine List.map_congr_left fun r _ => ?_
    by_cases first : r.category = c <;> by_cases later : r.category ∈ rest <;>
      simp [first, later]

/-- Subscribing to every registry is a map over the registries. -/
theorem subscribeAll_of_idle {h : Host} (idle : h.initializing = []) (handler : HandlerId) :
    h.subscribeAll handler =
      { h with registries := h.registries.map (Registry.swept handler) } := by
  unfold subscribeAll
  rw [foldl_subscribe _ idle]
  congr 1
  refine List.map_congr_left fun r present => ?_
  exact if_pos (List.mem_map_of_mem present)

theorem observe_of_supported {h : Host} (supported : h.observation = .supported)
    (reaction : Reaction) :
    h.observe reaction =
      .ok (h.installed,
        { h with
          observers := h.observers ++ [{ id := h.installed, reaction := reaction }]
          installed := h.installed + 1 }) := by
  unfold observe
  rw [supported]

/-! ### Creating -/

theorem change_change (h : Host) (category : String) (f : Registry → Registry)
    (stays : ∀ r, (f r).category = r.category) (settled : ∀ r, f (f r) = f r) :
    (h.change category f).change category f = h.change category f := by
  simp only [change, List.map_map]
  congr 1
  refine List.map_congr_left fun r _ => ?_
  by_cases same : r.category = category <;> simp [same, stays, settled]

/-- A second attempt to subscribe a handler changes nothing. -/
theorem subscribe_subscribe (h : Host) (handler : HandlerId) (category : String) :
    (h.subscribe handler category).subscribe handler category =
      h.subscribe handler category := by
  by_cases open' : h.admits category = true
  · have still : (h.registerIfAbsent category handler).admits category = true := open'
    simp only [subscribe, open', still, if_true]
    exact change_change h category _ (fun r => r.category_registerIfAbsent handler)
      (fun r => r.registerIfAbsent_registerIfAbsent handler)
  · simp [subscribe, open']

/-- However many observers there are for a handler, together they do what one does. -/
theorem notify_subscribing (use : Host → String → Host × List CreationReport)
    (category : String) (observers : List Observer) (h : Host)
    (subscribing : ∀ o ∈ observers, o.reaction = .subscribe handler) :
    notify (react use category) observers h =
      (if observers.isEmpty then h else h.subscribe handler category, []) := by
  induction observers generalizing h with
  | nil => rfl
  | cons o rest ih =>
    have first : react use category o h = (h.subscribe handler category, []) := by
      simp only [react, subscribing o List.mem_cons_self]
    have others := ih (h.subscribe handler category)
      fun o' member => subscribing o' (List.mem_cons_of_mem o member)
    simp only [notify, first, others, List.isEmpty_cons, List.append_nil]
    cases rest with
    | nil => rfl
    | cons o' rest => simp [subscribe_subscribe]

/-- The registry that is created for a category while another is being initialized: it
    carries the handler if somebody observes and neither category is blacklisted. -/
def newborn (h : Host) (handler : HandlerId) (initializing category : String) : Registry :=
  { category := category
    handlers :=
      if !h.observers.isEmpty && !isBlacklisted category && !isBlacklisted initializing then
        [handler]
      else [] }

theorem subscribe_beginCreation {h : Host} (idle : h.initializing = [])
    {category : String} (absent : h.has category = false) (handler : HandlerId)
    (initializing : String) :
    ((h.beginCreation initializing category).subscribe handler category).registries =
      h.registries ++
        [{ category := category
           handlers := if !isBlacklisted category && !isBlacklisted initializing then [handler]
             else [] }] := by
  by_cases open' : (!isBlacklisted category && !isBlacklisted initializing) = true
  · have admitted : (h.beginCreation initializing category).admits category = true := by
      simpa [admits, beginCreation, idle] using open'
    have others : h.registries.map (fun r =>
        if r.category = category then r.registerIfAbsent handler else r) = h.registries := by
      refine List.map_congr_left ?_ |>.trans (List.map_id _)
      intro r member
      exact if_neg (has_eq_false_iff.mp absent r member)
    have first : Registry.registerIfAbsent { category := category } handler =
        { category := category, handlers := [handler] } := by
      simp [Registry.registerIfAbsent, Registry.register]
    rw [if_pos open', subscribe, if_pos admitted]
    simp [registerIfAbsent, change, beginCreation, others, first]
  · have refused : ¬ (h.beginCreation initializing category).admits category = true := by
      simpa [admits, beginCreation, idle] using open'
    rw [if_neg open', subscribe, if_neg refused]
    rfl

theorem createDuring_of_has {h : Host} {category : String} (present : h.has category = true)
    (initializing : String) : h.createDuring initializing category = (h, []) := by
  simp [createDuring, createWithin, present]

/-- The creation of a registry puts it behind the others and changes nothing else. -/
theorem createDuring_of_absent {h : Host} (idle : h.initializing = [])
    (subscribing : ∀ o ∈ h.observers, o.reaction = .subscribe handler) {category : String}
    (absent : h.has category = false) (initializing : String) :
    h.createDuring initializing category =
      ({ h with registries := h.registries ++ [h.newborn handler initializing category] },
        []) := by
  simp only [createDuring, createWithin, absent, Bool.false_eq_true, if_false]
  rw [notify_subscribing _ _ _ _ subscribing]
  cases nobody : h.observers.isEmpty with
  | true => simp [endCreation, beginCreation, newborn, nobody]
  | false =>
    have created := subscribe_beginCreation idle absent handler initializing
    have frame : (h.beginCreation initializing category).subscribe handler category =
        { h.beginCreation initializing category with
          registries := ((h.beginCreation initializing category).subscribe handler
            category).registries } := by
      unfold subscribe
      split <;> rfl
    simp only [Bool.false_eq_true, if_false]
    rw [frame, created]
    simp [endCreation, beginCreation, newborn, nobody]

end Host

end EventAlerts
