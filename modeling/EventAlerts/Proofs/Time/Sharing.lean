/-
  EventAlerts/Proofs/Time/Sharing.lean
  ====================================
  **Clocks behind handles** — how far the two readings of a clock have moved, whoever moved it.

  A clock is used through handles, and a clone of a handle shows and moves the same time.  What
  was done with some clocks tells of every handle which clock it belongs to (`clockOf?`), and of
  every clock from where and by which spans it was moved (`account?`).  The times that are kept
  agree with this after every use (`Tracks`), so a handle shows what its clock comes to when it
  is moved by the spans of its account alone, whatever was done with the others.

  In an account monotonic time moves by every span, and wall time by those up to `longestStep`.
  So the two have moved equally far exactly if no span was longer.  A longer one is accepted from
  every start that leaves monotonic time the room for it (`readings_by_spans`).
-/
import EventAlerts.Time.Clock
import Mathlib.Algebra.GroupWithZero.Nat
import Mathlib.Tactic.ByContra

namespace EventAlerts.Time

/-! ### One clock -/

namespace Clock

variable {c c' : Clock} {span : Span}

theorem advance?_eq_some_iff : c.advance? span = some c' ↔
    (c.elapsed + span ≤ latestReading ∧ (stepWall c.wall span).inRange = true) ∧
      { elapsed := c.elapsed + span, wall := stepWall c.wall span } = c' := by
  simp only [advance?, Option.ite_none_right_eq_some, Bool.and_eq_true, decide_eq_true_eq,
    Option.some.injEq]

theorem advance?_of_long (inRange : c.wall.inRange = true) (long : longestStep < span)
    (room : c.elapsed + span ≤ latestReading) :
    c.advance? span = some { c with elapsed := c.elapsed + span } := by
  have stays : stepWall c.wall span = c.wall := if_neg (Nat.not_le.mpr long)
  rw [advance?_eq_some_iff, stays]
  exact ⟨⟨room, inRange⟩, rfl⟩

/-- A clock with both readings a span later. -/
def later (c : Clock) (span : Span) : Clock :=
  { elapsed := c.elapsed + span, wall := c.wall.later span }

/-- A clock that was moved by some spans, the last of them first, if none was refused. -/
def through? (start : Clock) : List Span → Option Clock
  | [] => some start
  | span :: earlier => (start.through? earlier).bind fun c => c.advance? span

end Clock

/-- A clock's start and the spans that it was moved by. -/
structure Account where
  start : Clock
  /-- The last one first. -/
  spans : List Span := []
  deriving Repr, DecidableEq

namespace Account

variable {a : Account} {span : Span} {c : Clock}

def add (a : Account) (span : Span) : Account := { a with spans := span :: a.spans }

/-- What the clock shows when it is moved by the spans, unless one is refused. -/
def shown? (a : Account) : Option Clock := a.start.through? a.spans

/-- The spans that wall time moves by. -/
def heeded (a : Account) : List Span := a.spans.filter (· ≤ longestStep)

def lost (a : Account) : List Span := a.spans.filter (longestStep < ·)

/-- What the spans come to. -/
def time (a : Account) : Clock :=
  { elapsed := a.start.elapsed + a.spans.sum, wall := a.start.wall.later a.heeded.sum }

theorem heeded_add_of_le (a : Account) (short : span ≤ longestStep) :
    (a.add span).heeded = span :: a.heeded :=
  List.filter_cons_of_pos (decide_eq_true short)

theorem heeded_add_of_lt (a : Account) (long : longestStep < span) :
    (a.add span).heeded = a.heeded :=
  List.filter_cons_of_neg (by simpa using long)

theorem elapsed_add (a : Account) (span : Span) :
    (a.add span).time.elapsed = a.time.elapsed + span := by
  change a.start.elapsed + (span :: a.spans).sum = a.start.elapsed + a.spans.sum + span
  rw [List.sum_cons, Nat.add_comm span, Nat.add_assoc]

theorem wall_add (a : Account) (span : Span) :
    (a.add span).time.wall = Clock.stepWall a.time.wall span := by
  change a.start.wall.later (a.add span).heeded.sum = _
  by_cases short : span ≤ longestStep
  · rw [heeded_add_of_le a short, Clock.stepWall, if_pos short, List.sum_cons]
    simp only [time, Stamp.later, Stamp.mk.injEq]
    omega
  · rw [heeded_add_of_lt a (Nat.lt_of_not_le short), Clock.stepWall, if_neg short]
    rfl

theorem time_of_advance? (moved : a.time.advance? span = some c) : c = (a.add span).time := by
  obtain ⟨_, rfl⟩ := Clock.advance?_eq_some_iff.mp moved
  rw [← elapsed_add, ← wall_add]

theorem shown?_add (a : Account) (span : Span) :
    (a.add span).shown? = a.shown?.bind fun c => c.advance? span :=
  rfl

theorem time_of_shown? (shown : a.shown? = some c) : c = a.time := by
  obtain ⟨start, spans⟩ := a
  induction spans generalizing c with
  | nil =>
    obtain rfl := Option.some.inj shown
    simp [time, heeded, Stamp.later]
  | cons span earlier ih =>
    obtain ⟨before, steps, step⟩ := Option.bind_eq_some_iff.mp shown
    rw [ih steps] at step
    exact time_of_advance? step

theorem short_of_shown? (late : latestReading ≤ a.start.elapsed + longestStep)
    (shown : a.shown? = some c) : ∀ span ∈ a.spans, span ≤ longestStep := by
  obtain ⟨start, spans⟩ := a
  induction spans generalizing c with
  | nil => exact List.forall_mem_nil _
  | cons span earlier ih =>
    obtain ⟨before, steps, step⟩ := Option.bind_eq_some_iff.mp shown
    refine List.forall_mem_cons.mpr ⟨?_, ih late steps⟩
    -- monotonic time has only gone on since the late start, so what fits in is not long
    have onward : start.elapsed ≤ before.elapsed := by
      rw [time_of_shown? (a := { start := start, spans := earlier }) steps]
      exact Nat.le_add_right _ _
    have room : before.elapsed + span ≤ latestReading := (Clock.advance?_eq_some_iff.mp step).1.1
    refine Nat.le_of_add_le_add_left (Nat.le_trans ?_ (Nat.le_trans room late))
    exact Nat.add_le_add_right onward span

theorem sum_heeded_add_sum_lost (a : Account) : a.heeded.sum + a.lost.sum = a.spans.sum := by
  have others : a.lost = a.spans.filter (fun span => !decide (span ≤ longestStep)) := by
    simp only [lost, ← decide_not, Nat.not_le]
  rw [heeded, others, ← List.sum_append_nat]
  exact (List.filter_append_perm _ a.spans).sum_nat

theorem sum_lost_eq_zero_iff : a.lost.sum = 0 ↔ ∀ span ∈ a.spans, span ≤ longestStep := by
  rw [List.sum_eq_zero_iff_forall_eq_nat]
  constructor
  · intro none span listed
    by_contra short
    have long : longestStep < span := Nat.lt_of_not_le short
    have zero := none span (List.mem_filter.mpr ⟨listed, decide_eq_true long⟩)
    rw [zero] at long
    exact Nat.not_lt_zero _ long
  · intro short span lost
    obtain ⟨listed, long⟩ := List.mem_filter.mp lost
    exact absurd (of_decide_eq_true long) (Nat.not_lt.mpr (short span listed))

theorem time_eq_later_iff :
    a.time = a.start.later a.spans.sum ↔ ∀ span ∈ a.spans, span ≤ longestStep := by
  rw [← sum_lost_eq_zero_iff]
  constructor
  · intro together
    have wall := congrArg (fun c => c.wall.nanos) together
    have same : a.heeded.sum = a.spans.sum := Int.ofNat.inj (Int.add_left_cancel wall)
    rw [← a.sum_heeded_add_sum_lost] at same
    exact Nat.left_eq_add.mp same
  · intro none
    have same := a.sum_heeded_add_sum_lost
    rw [none, Nat.add_zero] at same
    rw [time, same]
    rfl

theorem later_of_shown?_iff (shown : a.shown? = some c) :
    c = a.start.later a.spans.sum ↔ ∀ span ∈ a.spans, span ≤ longestStep := by
  rw [time_of_shown? shown]
  exact time_eq_later_iff

/-- The starts from which both readings always move equally far. -/
theorem later_of_through?_iff {start : Clock} (inRange : start.wall.inRange = true) :
    (∀ spans c, start.through? spans = some c → c = start.later spans.sum) ↔
      latestReading ≤ start.elapsed + longestStep := by
  constructor
  · intro together
    by_contra early
    -- there is room for the first span that wall time does not move by
    obtain ⟨span, long, room⟩ : ∃ span, longestStep < span ∧ start.elapsed + span ≤ latestReading :=
      ⟨longestStep + 1, Nat.lt_succ_self _, Nat.lt_of_not_le early⟩
    have moved : start.through? [span] = some { start with elapsed := start.elapsed + span } :=
      Clock.advance?_of_long inRange long room
    have shown : shown? { start := start, spans := [span] } = some _ := moved
    have short := (later_of_shown?_iff shown).mp (together _ _ moved) span List.mem_cons_self
    exact absurd long (Nat.not_lt.mpr short)
  · intro late spans c moved
    have shown : shown? { start := start, spans := spans } = some c := moved
    exact (later_of_shown?_iff shown).mpr (short_of_shown? late shown)

end Account

/-! ### Many clocks -/

/-- What can be done with clocks.  Handles have numbers, in the order in which they come about. -/
inductive Use
  /-- A clock is made, with its first handle, from what monotonic time shows and a wall time. -/
  | make (reading : Span) (wall : Stamp)
  | clone (handle : Nat)
  | advance (handle : Nat) (span : Span)
  deriving Repr, DecidableEq

/-- Clocks, and the handles by which they are used. -/
structure Clocks where
  times : List Clock := []
  /-- The place of the time that a handle shares with its clones. -/
  handles : List Nat := []
  deriving Repr, DecidableEq

namespace Clocks

def time? (s : Clocks) (handle : Nat) : Option Clock :=
  s.handles[handle]?.bind fun place => s.times[place]?

/-- The clocks after a use, unless it is of no handle or moves a reading out of its range. -/
def step? (s : Clocks) : Use → Option Clocks
  | .make reading wall => some
    { times := s.times ++ [{ elapsed := reading, wall := wall }]
      handles := s.handles ++ [s.times.length] }
  | .clone handle => s.handles[handle]?.map fun place => { s with handles := s.handles ++ [place] }
  | .advance handle span => do
    let place ← s.handles[handle]?
    let time ← s.times[place]?
    let moved ← time.advance? span
    return { s with times := s.times.set place moved }

/-- The clocks after some uses, the last one first. -/
def after? : List Use → Option Clocks
  | [] => some {}
  | use :: earlier => (after? earlier).bind fun s => s.step? use

/-- How many handles there are after some uses, the last one first. -/
def handleCount : List Use → Nat
  | [] => 0
  | .advance _ _ :: earlier => handleCount earlier
  | _ :: earlier => handleCount earlier + 1

def clockCount : List Use → Nat
  | [] => 0
  | .make _ _ :: earlier => clockCount earlier + 1
  | _ :: earlier => clockCount earlier

/-- The number of the clock that a handle belongs to, in the order in which they were made. -/
def clockOf? : List Use → Nat → Option Nat
  | [], _ => none
  | .make _ _ :: earlier, h =>
    if h = handleCount earlier then some (clockCount earlier) else clockOf? earlier h
  | .clone handle :: earlier, h =>
    if h = handleCount earlier then clockOf? earlier handle else clockOf? earlier h
  | .advance _ _ :: earlier, h => clockOf? earlier h

/-- The account of the clock with a number. -/
def account? : List Use → Nat → Option Account
  | [], _ => none
  | .make reading wall :: earlier, n =>
    if n = clockCount earlier then some { start := { elapsed := reading, wall := wall } }
    else account? earlier n
  | .clone _ :: earlier, n => account? earlier n
  | .advance handle span :: earlier, n =>
    if clockOf? earlier handle = some n then (account? earlier n).map fun a => a.add span
    else account? earlier n

/-- The account of the clock that a handle belongs to. -/
def accountOf? (history : List Use) (h : Nat) : Option Account :=
  (clockOf? history h).bind fun n => account? history n

variable {history earlier : List Use} {s s' : Clocks} {use : Use}

/-- What the uses so far and the times that are kept have to do with each other. -/
structure Tracks (history : List Use) (s : Clocks) : Prop where
  handles : s.handles.length = handleCount history
  clocks : s.times.length = clockCount history
  owners : ∀ h, s.handles[h]? = clockOf? history h
  times : ∀ n, s.times[n]? = (account? history n).bind Account.shown?

theorem getElem?_concat {α : Type} (l : List α) (x : α) (i : Nat) :
    (l ++ [x])[i]? = if i = l.length then some x else l[i]? := by
  rcases Nat.lt_trichotomy i l.length with before | rfl | behind
  · rw [if_neg (Nat.ne_of_lt before), List.getElem?_append_left before]
  · rw [if_pos rfl, List.getElem?_concat_length]
  · have outside : (l ++ [x]).length ≤ i := by
      rw [List.length_append]
      exact behind
    rw [if_neg (Nat.ne_of_gt behind), List.getElem?_eq_none outside,
      List.getElem?_eq_none (Nat.le_of_lt behind)]

namespace Tracks

theorem nil : Tracks [] {} where
  handles := rfl
  clocks := rfl
  owners := fun _ => rfl
  times := fun _ => rfl

theorem make (tracks : Tracks earlier s) (reading : Span) (wall : Stamp) :
    Tracks (.make reading wall :: earlier)
      { times := s.times ++ [{ elapsed := reading, wall := wall }]
        handles := s.handles ++ [s.times.length] } where
  handles := List.length_append.trans (congrArg (· + 1) tracks.handles)
  clocks := List.length_append.trans (congrArg (· + 1) tracks.clocks)
  owners := by
    intro h
    rw [getElem?_concat, tracks.handles, tracks.clocks, tracks.owners h]
    rfl
  times := by
    intro n
    rw [getElem?_concat, tracks.clocks, tracks.times n, account?,
      apply_ite (fun a => Option.bind a Account.shown?)]
    rfl

theorem clone (tracks : Tracks earlier s) {handle place : Nat}
    (found : s.handles[handle]? = some place) :
    Tracks (.clone handle :: earlier) { s with handles := s.handles ++ [place] } where
  handles := List.length_append.trans (congrArg (· + 1) tracks.handles)
  clocks := tracks.clocks
  owners := by
    intro h
    rw [getElem?_concat, tracks.handles, tracks.owners h, ← found, tracks.owners handle]
    rfl
  times := tracks.times

theorem advance (tracks : Tracks earlier s) {handle place : Nat} {span : Span} {time moved : Clock}
    (found : s.handles[handle]? = some place) (shown : s.times[place]? = some time)
    (accepted : time.advance? span = some moved) :
    Tracks (.advance handle span :: earlier) { s with times := s.times.set place moved } where
  handles := tracks.handles
  clocks := List.length_set.trans tracks.clocks
  owners := tracks.owners
  times := by
    intro n
    rw [tracks.owners] at found
    rw [account?, found]
    by_cases same : place = n
    · subst same
      have told := shown
      rw [tracks.times place] at told
      obtain ⟨a, entered, steps⟩ := Option.bind_eq_some_iff.mp told
      rw [if_pos rfl, entered, Option.map_some, Option.bind_some, Account.shown?_add, steps,
        Option.bind_some, accepted]
      exact List.getElem?_set_self (List.getElem?_eq_some_iff.mp shown).1
    · -- the time of another clock is not touched, nor is its account
      have other : ¬ some place = some n := mt Option.some.inj same
      rw [if_neg other, List.getElem?_set_ne same, tracks.times n]

theorem step (tracks : Tracks earlier s) (stepped : s.step? use = some s') :
    Tracks (use :: earlier) s' := by
  cases use with
  | make reading wall =>
    obtain rfl := Option.some.inj stepped
    exact tracks.make reading wall
  | clone handle =>
    obtain ⟨place, found, rfl⟩ := Option.map_eq_some_iff.mp stepped
    exact tracks.clone found
  | advance handle span =>
    obtain ⟨place, found, stepped⟩ := Option.bind_eq_some_iff.mp stepped
    obtain ⟨time, shown, stepped⟩ := Option.bind_eq_some_iff.mp stepped
    obtain ⟨moved, accepted, stepped⟩ := Option.bind_eq_some_iff.mp stepped
    obtain rfl := Option.some.inj stepped
    exact tracks.advance found shown accepted

theorem after (ran : after? history = some s) : Tracks history s := by
  induction history generalizing s with
  | nil =>
    obtain rfl := Option.some.inj ran
    exact nil
  | cons use earlier ih =>
    obtain ⟨before, ran, stepped⟩ := Option.bind_eq_some_iff.mp ran
    exact (ih ran).step stepped

theorem time?_eq (tracks : Tracks history s) (h : Nat) :
    s.time? h = (accountOf? history h).bind Account.shown? := by
  rw [time?, tracks.owners, accountOf?, Option.bind_assoc]
  exact Option.bind_congr fun n _ => tracks.times n

end Tracks

theorem lt_of_clockOf? {h n : Nat} (owned : clockOf? history h = some n) :
    n < clockCount history := by
  induction history generalizing h with
  | nil => cases owned
  | cons use earlier ih =>
    cases use with
    | make reading wall =>
      rw [clockOf?] at owned
      split at owned
      · obtain rfl := Option.some.inj owned
        exact Nat.lt_succ_self _
      · exact Nat.lt_succ_of_lt (ih owned)
    | clone handle =>
      rw [clockOf?] at owned
      split at owned
      · exact ih owned
      · exact ih owned
    | advance handle span => exact ih owned

theorem Tracks.exists_shown? (tracks : Tracks history s) {h : Nat} (known : h < handleCount history) :
    ∃ a c, accountOf? history h = some a ∧ a.shown? = some c ∧ s.time? h = some c := by
  have told : h < s.handles.length := by
    rw [tracks.handles]
    exact known
  have owned := List.getElem?_eq_getElem told
  have inside : s.handles[h] < s.times.length := by
    rw [tracks.clocks]
    exact lt_of_clockOf? ((tracks.owners h).symm.trans owned)
  have shown : s.time? h = some s.times[s.handles[h]] := by
    rw [time?, owned, Option.bind_some, List.getElem?_eq_getElem inside]
  have entered := shown
  rw [tracks.time?_eq] at entered
  obtain ⟨a, entered, steps⟩ := Option.bind_eq_some_iff.mp entered
  exact ⟨a, _, entered, steps, shown⟩

/-- How far the readings of clocks move, through any handles.

    Whatever was done, every handle shows what its clock comes to when it is moved by the spans of
    its account alone.  Monotonic time has moved by all of them, and wall time by those up to
    `longestStep`; so both have moved by the sum of the spans exactly if none was longer.  From a
    wall time in its range they always do so exactly if the start leaves monotonic time no room
    for a longer one. -/
theorem readings_by_spans (ran : after? history = some s) :
    (∀ h < handleCount history, ∃ a c, accountOf? history h = some a ∧ s.time? h = some c ∧
      a.start.through? a.spans = some c ∧
      c.elapsed = a.start.elapsed + a.spans.sum ∧
      c.wall = a.start.wall.later a.heeded.sum ∧
      (c = a.start.later a.spans.sum ↔ ∀ span ∈ a.spans, span ≤ longestStep)) ∧
    (∀ start : Clock, start.wall.inRange = true →
      ((∀ spans c, start.through? spans = some c → c = start.later spans.sum) ↔
        latestReading ≤ start.elapsed + longestStep)) := by
  refine ⟨?_, fun start => Account.later_of_through?_iff⟩
  intro h known
  obtain ⟨a, c, entered, steps, shown⟩ := (Tracks.after ran).exists_shown? known
  have time := Account.time_of_shown? steps
  exact ⟨a, c, entered, shown, steps, congrArg Clock.elapsed time, congrArg Clock.wall time,
    Account.later_of_shown?_iff steps⟩

/-- A clock is torn by a long span, and another one is moved by way of a clone. -/
theorem readings_by_spans_of_two_clocks :
    let history : List Use := [.advance 1 (longestStep + 1), .advance 2 90, .clone 0,
      .advance 0 7, .make 5 ⟨100⟩, .make 0 ⟨0⟩]
    ∃ s, after? history = some s ∧ s.time? 0 = some (Clock.later {} 97) ∧
      s.time? 1 ≠ some (Clock.later { elapsed := 5, wall := ⟨100⟩ } (longestStep + 1)) := by
  intro history
  have ran : after? history = some
      { times := [{ elapsed := 97, wall := ⟨97⟩ },
          { elapsed := 5 + (longestStep + 1), wall := ⟨100⟩ }]
        handles := [0, 1, 0] } := by
    decide +kernel
  obtain ⟨read, _⟩ := readings_by_spans ran
  refine ⟨_, ran, ?_, ?_⟩
  · obtain ⟨a, c, entered, shown, _, _, _, together⟩ := read 0 (by decide)
    have moved : accountOf? history 0 = some { start := {}, spans := [90, 7] } := by decide
    obtain rfl := Option.some.inj (moved.symm.trans entered)
    rw [shown, together.mpr (by decide)]
    rfl
  · obtain ⟨a, c, entered, shown, _, _, _, together⟩ := read 1 (by decide)
    have moved : accountOf? history 1 =
        some { start := { elapsed := 5, wall := ⟨100⟩ }, spans := [longestStep + 1] } := by decide
    obtain rfl := Option.some.inj (moved.symm.trans entered)
    rw [shown]
    intro same
    exact absurd (together.mp (Option.some.inj same)) (by decide)

/-- Wall time stays where it is over a span of more milliseconds than 63 bits hold. -/
theorem wall_left_behind :
    ∃ c, (Clock.startingAt ⟨0⟩).advance? (9223372036854776 * nanosPerSecond) = some c ∧
      c.elapsed = 9223372036854776 * nanosPerSecond ∧
      c.wall ≠ Stamp.later ⟨0⟩ (9223372036854776 * nanosPerSecond) :=
  ⟨{ elapsed := 9223372036854776 * nanosPerSecond, wall := ⟨0⟩ }, by decide +kernel, rfl,
    by decide⟩

end Clocks

end EventAlerts.Time
