/-
  EventAlerts/Host/Registry.lean
  ==============================
  **The host's registries** — one list of handlers for every category of occurrences.

  A registry is created when its category is first used, possibly while another
  category is being initialized.  Observers hear of each creation, in the order they
  were installed, and those that are installed when it begins.  An observer either
  reports the creation, and may create another registry in turn, or subscribes a
  handler to the new registry.

  Handlers must not be subscribed to two categories, nor to a registry that is created
  while one of these is being initialized.
-/

namespace EventAlerts

/-- What a handler goes by. -/
abbrev HandlerId := String

/-- What an observer goes by. -/
abbrev ObserverId := Nat

/-- The handlers of a category, in the order they were registered. -/
structure Registry where
  /-- The category's full name. -/
  category : String
  handlers : List HandlerId := []
  deriving Repr, DecidableEq, Inhabited

namespace Registry

/-- Adds a handler, also if it is there already. -/
def register (r : Registry) (handler : HandlerId) : Registry :=
  { r with handlers := r.handlers ++ [handler] }

/-- Adds a handler unless it is there already. -/
def registerIfAbsent (r : Registry) (handler : HandlerId) : Registry :=
  if handler ∈ r.handlers then r else r.register handler

/-- Removes a handler wherever it occurs. -/
def unregister (r : Registry) (handler : HandlerId) : Registry :=
  { r with handlers := r.handlers.filter (· ≠ handler) }

end Registry

/-- What a host lets others see of its registries. -/
inductive Observation
  /-- New registries are reported to observers. -/
  | supported
  /-- The registries can be listed but are not reported. -/
  | unsupported
  /-- The registries cannot be reached for observing. -/
  | inaccessible
  deriving Repr, DecidableEq, Inhabited

/-- What an observer does when a registry is created. -/
inductive Reaction
  /-- It reports the creation, and may use another category. -/
  | report (uses : Option String)
  /-- It subscribes a handler to the new registry. -/
  | subscribe (handler : HandlerId)
  deriving Repr, DecidableEq

structure Observer where
  id : ObserverId
  reaction : Reaction
  deriving Repr, DecidableEq

/-- The creation of a registry as an observer reports it. -/
structure CreationReport where
  observer : ObserverId
  category : String
  /-- The categories that are being initialized, the outermost first. -/
  initializing : List String
  deriving Repr, DecidableEq

/-- Why an observer could not be installed. -/
inductive HostError
  | observationUnsupported
  | inaccessible (reason : String)
  deriving Repr, DecidableEq

def HostError.message : HostError → String
  | .observationUnsupported => "host does not support registry observation"
  | .inaccessible reason => "host internals are inaccessible: " ++ reason

/-- A host. -/
structure Host where
  observation : Observation := .supported
  /-- In the order they were created. -/
  registries : List Registry := []
  /-- In the order they were installed. -/
  observers : List Observer := []
  /-- The categories that are being initialized, the outermost first. -/
  initializing : List String := []
  /-- The number of observers installed so far. -/
  installed : Nat := 0
  deriving Repr, DecidableEq, Inhabited

/-- The categories that handlers must not be subscribed to. -/
def blacklist : List String :=
  ["com.destroystokyo.paper.event.player.PlayerHandshakeEvent",
   "org.bukkit.event.player.PlayerChatEvent"]

/-- Whether handlers must not be subscribed to a category. -/
def isBlacklisted (category : String) : Bool := blacklist.contains category

namespace Host

/-! ### Registries -/

/-- The registry of a category, if there is one. -/
def registry? (h : Host) (category : String) : Option Registry :=
  h.registries.find? fun r => r.category = category

def has (h : Host) (category : String) : Bool := (h.registry? category).isSome

/-- The handlers of a category, in order. -/
def handlersOf (h : Host) (category : String) : List HandlerId :=
  ((h.registry? category).map Registry.handlers).getD []

/-- Changes the registry of a category. -/
def change (h : Host) (category : String) (f : Registry → Registry) : Host :=
  { h with registries := h.registries.map fun r => if r.category = category then f r else r }

def register (h : Host) (category : String) (handler : HandlerId) : Host :=
  h.change category fun r => r.register handler

def registerIfAbsent (h : Host) (category : String) (handler : HandlerId) : Host :=
  h.change category fun r => r.registerIfAbsent handler

def unregister (h : Host) (category : String) (handler : HandlerId) : Host :=
  h.change category fun r => r.unregister handler

/-! ### Subscribing -/

/-- Whether a handler may be subscribed to a category now. -/
def admits (h : Host) (category : String) : Bool :=
  !isBlacklisted category && !h.initializing.any isBlacklisted

/-- Subscribes a handler to a category, if that is allowed now. -/
def subscribe (h : Host) (handler : HandlerId) (category : String) : Host :=
  if h.admits category then h.registerIfAbsent category handler else h

/-- Subscribes a handler to every registry that there is. -/
def subscribeAll (h : Host) (handler : HandlerId) : Host :=
  (h.registries.map Registry.category).foldl (fun h c => h.subscribe handler c) h

/-- Removes a handler from every registry. -/
def unsubscribeAll (h : Host) (handler : HandlerId) : Host :=
  { h with registries := h.registries.map fun r => r.unregister handler }

/-! ### Observers -/

/-- Installs an observer, if the host supports that. -/
def observe (h : Host) (reaction : Reaction) : Except HostError (ObserverId × Host) :=
  match h.observation with
  | .supported =>
    .ok (h.installed,
      { h with
        observers := h.observers ++ [{ id := h.installed, reaction := reaction }]
        installed := h.installed + 1 })
  | .unsupported => .error .observationUnsupported
  | .inaccessible => .error (.inaccessible "registry list is sealed")

/-- Removes an observer, if it is installed. -/
def stopObserving (h : Host) (id : ObserverId) : Host :=
  { h with observers := h.observers.filter fun o => o.id ≠ id }

/-! ### Creating -/

/-- Adds a registry while a category is being initialized. -/
def beginCreation (h : Host) (initializing category : String) : Host :=
  { h with
    registries := h.registries ++ [{ category := category }]
    initializing := h.initializing ++ [initializing] }

/-- Ends the initialization that began last. -/
def endCreation (h : Host) : Host := { h with initializing := h.initializing.dropLast }

/-- What an observer does about a new registry, given how it can use a category. -/
def react (use : Host → String → Host × List CreationReport) (category : String)
    (o : Observer) (h : Host) : Host × List CreationReport :=
  match o.reaction with
  | .subscribe handler => (h.subscribe handler category, [])
  | .report uses =>
    let report : CreationReport :=
      { observer := o.id, category := category, initializing := h.initializing }
    match uses with
    | none => (h, [report])
    | some other =>
      let (h, reports) := use h other
      (h, report :: reports)

/-- What observers do about a new registry, one after the other. -/
def notify (act : Observer → Host → Host × List CreationReport) :
    List Observer → Host → Host × List CreationReport
  | [], h => (h, [])
  | o :: rest, h =>
    let (h, first) := act o h
    let (h, others) := notify act rest h
    (h, first ++ others)

/-- Creates the registry of a category, unless there is one.  The bound is on
    creations inside creations; each of these is of another category that some observer
    uses. -/
def createWithin : Nat → Host → String → String → Host × List CreationReport
  | 0, h, _, _ => (h, [])
  | bound + 1, h, initializing, category =>
    if h.has category then (h, [])
    else
      let use (h : Host) (other : String) := createWithin bound h other other
      let (after, reports) :=
        notify (react use category) h.observers (h.beginCreation initializing category)
      (after.endCreation, reports)

/-- Creates the registry of a category while another is being initialized, unless there
    is one. -/
def createDuring (h : Host) (initializing category : String) : Host × List CreationReport :=
  createWithin (h.observers.length + 1) h initializing category

/-- Creates the registry of a category on its first use. -/
def create (h : Host) (category : String) : Host × List CreationReport :=
  h.createDuring category category

/-- What an occurrence of a category meets: the handlers that get it, one after the
    other.  Its registry is created first if there is none. -/
def fire (h : Host) (category : String) : List HandlerId × Host × List CreationReport :=
  let (h, reports) := h.create category
  (h.handlersOf category, h, reports)

end Host

end EventAlerts
