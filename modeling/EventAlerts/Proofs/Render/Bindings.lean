/-
  EventAlerts/Proofs/Render/Bindings.lean
  =======================================
  **What a name is bound to** — looking up a name in the bindings of a destination.
-/
import EventAlerts.Render.Context

namespace EventAlerts

open EventAlerts.Expr (Value Bindings)

/-- The member that was put in last is the one that is found. -/
theorem Json.member?_insertMember (key name : String) (value : Json)
    (members : List (String × Json)) :
    member? name (insertMember key value members) =
      if key = name then some value else member? name members := by
  induction members with
  | nil => rfl
  | cons m rest ih =>
    obtain ⟨k, v⟩ := m
    simp only [insertMember]
    split
    · rfl
    · split
      · rename_i same
        subst same
        by_cases asked : key = name <;> simp [member?, asked]
      · rename_i other
        by_cases first : k = name
        · have away : key ≠ name := fun same => other (same.trans first.symm)
          simp [member?, first, away]
        · simp [member?, first, ih]

namespace RenderContext

/-- The value of a name is made from the member of that name. -/
theorem find?_bindings (c : RenderContext) (name : String) :
    c.bindings.find? name =
      (Json.member? name c.vars).map (Value.ofJson (.variable name)) := by
  unfold bindings Bindings.find?
  induction c.vars with
  | nil => rfl
  | cons m rest ih =>
    obtain ⟨k, v⟩ := m
    by_cases here : k = name
    · simp [Json.member?, here]
    · simpa [Json.member?, here] using ih

/-- At a destination `channel` is that destination, whatever the occurrence holds. -/
theorem find?_channel (c : RenderContext) (d : Destination) :
    (c.forDestination d).bindings.find? "channel" =
      some (Value.ofJson (.variable "channel") d.toJson) := by
  have bound : Json.member? "channel" (c.forDestination d).vars = some d.toJson := by
    simp only [vars, reserved, List.foldl_append, List.foldl_cons, List.foldl_nil,
      forDestination, bindingOf, Json.member?_insertMember]
    rfl
  rw [find?_bindings, bound]
  rfl

end RenderContext

end EventAlerts
