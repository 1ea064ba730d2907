/-
  EventAlerts/Proofs/Json/Members.lean
  ====================================
  **Objects of named parts** — an object that has a member for each part that is there.

  The objects that this project writes are of this form (`given`): no two parts share a name, and
  an absent part leaves no trace.  Each part is therefore found by its name, whatever the
  others are (`fieldOf?_given`).  The readers here are strict: an object is read only if it
  has no other members (`among?`), and a part that may be absent is not null (`fieldIf?`).
-/
import EventAlerts.Json.Decode
import EventAlerts.Proofs.Json.Reading
import Mathlib.Data.List.Nodup

namespace EventAlerts.Json

/-- The members of the parts that are there. -/
def given (parts : List (String × Option Json)) : List (String × Json) :=
  parts.flatMap fun part => (part.2.map (part.1, ·)).toList

theorem given_cons (name : String) (part : Option Json) (parts : List (String × Option Json)) :
    given ((name, part) :: parts) = (part.map (name, ·)).toList ++ given parts :=
  List.flatMap_cons

variable {name : String} {part : Option Json} {parts : List (String × Option Json)}

theorem name_mem_of_mem_given {member : String × Json} (listed : member ∈ given parts) :
    member.1 ∈ parts.map Prod.fst := by
  obtain ⟨⟨name, part⟩, inside, listed⟩ := List.mem_flatMap.mp listed
  obtain ⟨j, -, rfl⟩ := Option.map_eq_some_iff.mp (Option.mem_toList.mp listed)
  exact List.mem_map_of_mem inside

theorem isExactMembers_iff (members : List (String × Json)) :
    isExactMembers members = true ↔ ∀ member ∈ members, isExact member.2 = true := by
  induction members with
  | nil => exact ⟨fun _ => nofun, fun _ => rfl⟩
  | cons member members ih => rw [isExactMembers, Bool.and_eq_true, List.forall_mem_cons, ih]

theorem isExactItems_iff (items : List Json) :
    isExactItems items = true ↔ ∀ item ∈ items, isExact item = true := by
  induction items with
  | nil => exact ⟨fun _ => nofun, fun _ => rfl⟩
  | cons item items ih => rw [isExactItems, Bool.and_eq_true, List.forall_mem_cons, ih]

theorem isExact_object_given
    (exact : ∀ part ∈ parts, ∀ j ∈ part.2, isExact j = true) :
    isExact (.object (given parts)) = true := by
  rw [isExact, isExactMembers_iff]
  intro member listed
  obtain ⟨⟨name, part⟩, inside, listed⟩ := List.mem_flatMap.mp listed
  obtain ⟨j, there, rfl⟩ := Option.map_eq_some_iff.mp (Option.mem_toList.mp listed)
  exact exact _ inside j there

theorem isExact_of_mem_map {write : α → Json} {value : Option α}
    (exact : ∀ a ∈ value, (write a).isExact = true) :
    ∀ j ∈ value.map write, j.isExact = true := by
  intro j there
  obtain ⟨a, known, rfl⟩ := Option.map_eq_some_iff.mp there
  exact exact a known

/-! ### Finding a part -/

theorem membersNamed_append (names : List String) (first second : List (String × Json)) :
    membersNamed names (first ++ second) =
      membersNamed names first ++ membersNamed names second := by
  simp [membersNamed]

theorem membersNamed_eq_nil {names : List String} {members : List (String × Json)}
    (apart : ∀ member ∈ members, member.1 ∉ names) : membersNamed names members = [] := by
  rw [membersNamed, List.map_eq_nil_iff, List.filter_eq_nil_iff]
  intro member listed
  simpa using apart member listed

theorem membersNamed_given (apart : (parts.map Prod.fst).Nodup) (listed : (name, part) ∈ parts) :
    membersNamed [name] (given parts) = part.toList := by
  induction parts with
  | nil => cases listed
  | cons first others ih =>
    obtain ⟨other, value⟩ := first
    rw [List.map_cons, List.nodup_cons] at apart
    rw [given_cons, membersNamed_append]
    rcases List.mem_cons.mp listed with same | later
    · obtain ⟨rfl, rfl⟩ := Prod.mk.inj same
      have none : membersNamed [name] (given others) = [] := by
        refine membersNamed_eq_nil fun member inside clash => ?_
        rw [List.mem_singleton] at clash
        exact apart.1 (clash ▸ name_mem_of_mem_given inside)
      rw [none, List.append_nil]
      cases part <;> simp [membersNamed]
    · have known : name ∈ others.map Prod.fst := List.mem_map_of_mem later
      have differ : other ≠ name := fun same => apart.1 (same ▸ known)
      rw [ih apart.2 later, membersNamed_eq_nil, List.nil_append]
      intro member inside clash
      obtain ⟨j, -, rfl⟩ := Option.map_eq_some_iff.mp (Option.mem_toList.mp inside)
      exact differ (List.mem_singleton.mp clash)

theorem fieldOf?_given (apart : (parts.map Prod.fst).Nodup) (listed : (name, part) ∈ parts) :
    fieldOf? [name] (given parts) = some part := by
  rw [fieldOf?, membersNamed_given apart listed]
  cases part <;> rfl

/-! ### Reading -/

/-- The members of an object in which every member has one of the names. -/
def among? (names : List String) : Json → Option (List (String × Json))
  | .object members => if members.all (names.contains ·.1) then some members else none
  | _ => none

/-- A part that has to be there. -/
def field? (name : String) (read : Json → Option α) (members : List (String × Json)) :
    Option α :=
  (fieldOf? [name] members).bind (required read)

/-- A part that may be absent, but must not be null for that. -/
def fieldIf? (name : String) (read : Json → Option α) (members : List (String × Json)) :
    Option (Option α) :=
  match fieldOf? [name] members with
  | some (some j) => (read j).map some
  | some none => some none
  | none => none

theorem bind_of_eq_some {x : Option α} {a : α} (there : x = some a) (f : α → Option β) :
    (x >>= f) = f a := by
  rw [there]
  rfl

theorem among?_given {names : List String} (all : parts.map Prod.fst = names) :
    among? names (.object (given parts)) = some (given parts) := by
  refine if_pos (List.all_eq_true.mpr fun member listed => ?_)
  rw [List.contains_iff_mem, ← all]
  exact name_mem_of_mem_given listed

theorem field?_given {read : Json → Option α} (j : Json) {value : α}
    (apart : (parts.map Prod.fst).Nodup) (listed : (name, some j) ∈ parts)
    (back : read j = some value) : field? name read (given parts) = some value := by
  rw [field?, fieldOf?_given apart listed, Option.bind_some, required, Option.bind_some, back]

theorem fieldIf?_given {read : Json → Option α} (write : α → Json) {value : Option α}
    (apart : (parts.map Prod.fst).Nodup) (listed : (name, value.map write) ∈ parts)
    (back : ∀ a ∈ value, read (write a) = some a) :
    fieldIf? name read (given parts) = some value := by
  rw [fieldIf?, fieldOf?_given apart listed]
  cases value with
  | none => rfl
  | some a => simp [back a rfl]

end EventAlerts.Json
