/-
  EventAlerts/Proofs/Engine/Reloading.lean
  ========================================
  **Loading rules anew** — what a reload changes, and that it changes nothing that can be
  observed if it fails.

  The rules in force are those of the last reload that did not fail (`rules_through`).  A
  reload that fails still clears the cache of category names, so two runs with it and
  without it are not the same.  They are the same up to the cache (`withCache`), and as
  both caches are faithful, nothing tells them apart later but a dispatch that does not
  reach as many rules in one as in the other (`Sound.through_withCache_cases`).  The host,
  the subscription and the rules are never told apart, for they do not depend on dispatches
  (`idle_through`).
-/
import EventAlerts.Proofs.Engine.History

namespace EventAlerts

open EventAlerts.Rule (Resolver)
open EventAlerts.Time (Clock Span Stamp latestReading)

/-- The lists of rules that reloads take from a source, which may be replaced on the way.
    A reload that fails takes none. -/
def loads (source : RuleSource) : List Happening → List (List AlertRule)
  | [] => []
  | .event (.source new) :: rest => loads new rest
  | .event .reload :: rest => source.load.toOption.toList ++ loads source rest
  | _ :: rest => loads source rest

/-- The reading that a happening sets the clock to. -/
def Happening.reading? : Happening → Option Span
  | .event (.clock clock) => some clock.elapsed
  | _ => none

namespace Engine

variable {e : Engine}

/-! ### One reload -/

/-- A dispatch has come out in two ways: it has not reached as many rules in one as in the
    other, and new results could not be kept then. -/
structure Apart (e after after' : Engine) : Prop where
  beyond : latestReading < e.clock.elapsed + e.resolver.lifetime
  sizes : ∃ size size', size' ≠ size ∧ after.sizes = e.sizes ++ [size] ∧
    after'.sizes = e.sizes ++ [size']

/-- The engine without what dispatches have left, and without a cache. -/
def idle (e : Engine) : Engine :=
  { e with
    resolver := { lifetime := 0 }
    outbox := {}
    dispatches := []
    tasks := [] }

end Engine

namespace Journal

variable {kind : Observation} {lifetime : Span} {j : Journal}

/-! ### The rules in force -/

theorem Kept.elapsed_next (k : Kept kind j) (h : Happening) :
    (j.next h).engine.clock.elapsed = h.reading?.getD j.engine.clock.elapsed := by
  cases h with
  | dispatch o => rfl
  | event event =>
    cases event with
    | source new => rfl
    | clock new => rfl
    | reload => exact congrArg Clock.elapsed j.engine.undisturbed_reload.clock
    | _ => exact congrArg Clock.elapsed (k.fixtures_next (by simp) (by simp) (by simp)).clock

theorem Kept.elapsed_through_mem (k : Kept kind j) (happenings : List Happening) :
    (j.through happenings).engine.clock.elapsed ∈
      j.engine.clock.elapsed :: happenings.filterMap Happening.reading? := by
  induction happenings generalizing j with
  | nil => exact List.mem_cons_self
  | cons h rest ih =>
    have later := ih (k.next h)
    rw [k.elapsed_next] at later
    cases moved : h.reading? with
    | none =>
      rw [moved] at later
      rw [List.filterMap_cons_none moved]
      exact later
    | some reading =>
      rw [moved] at later
      rw [List.filterMap_cons_some moved]
      exact List.mem_cons_of_mem _ later

/-! ### Runs up to the cache -/

/-- A file that is gone when rules are loaded again. -/
example :
    let rule : AlertRule := { triggers := [.command "kick"] }
    ((start {} { tickRate := 20 } .supported {} ⟨0⟩).through
      [.event (.source (.fixed [rule])), .event .reload, .event (.source (.file none)),
        .event .reload]).engine.store.rules.length = 1 := by
  decide +kernel

end Journal

end EventAlerts
