/-
  EventAlerts/Proofs/Rule/Grammar.lean
  ====================================
  **The grammar of category names** — the name that is found in a text is the first one that
  the grammar admits, and as long as possible.

  The grammar is about a whole name: identifiers with dots between them (`IsName`).  The
  search goes from character to character and never back, and at a dot it looks at one
  character more.  `Follows` is the grammar as the search sees it: each character goes on with
  an identifier or is a dot in front of one.  It is kept by taking a name (`follows_takeName`),
  and whatever keeps it is taken (`prefix_takeName`); so the search misses no longer name.
-/
import EventAlerts.Rule.Category
import Mathlib.Data.List.Infix
import Mathlib.Data.List.TakeWhile

namespace EventAlerts.Rule

variable {c : Char} {w s rest before name after : List Char}

/-! ### The grammar -/

/-- A character that identifiers start with, and any number of those they go on with. -/
def IsIdentifier (w : List Char) : Prop :=
  ∃ first rest, w = first :: rest ∧ startsName first = true ∧ ∀ c ∈ rest, continuesName c = true

/-- One or more identifiers with dots between them. -/
def IsName (w : List Char) : Prop :=
  ∃ identifiers, identifiers ≠ [] ∧ (∀ i ∈ identifiers, IsIdentifier i) ∧
    ['.'].intercalate identifiers = w

theorem continuesName_of_startsName (starts : startsName c = true) : continuesName c = true := by
  simp [continuesName, starts]

theorem IsIdentifier.continues (i : IsIdentifier w) : ∀ c ∈ w, continuesName c = true := by
  obtain ⟨first, rest, rfl, starts, continues⟩ := i
  exact List.forall_mem_cons.mpr ⟨continuesName_of_startsName starts, continues⟩

theorem IsIdentifier.atName (i : IsIdentifier w) : atName w = true := by
  obtain ⟨first, rest, rfl, starts, _⟩ := i
  exact starts

theorem IsIdentifier.append (i : IsIdentifier w) (continues : continuesName c = true) :
    IsIdentifier (w ++ [c]) := by
  obtain ⟨first, rest, rfl, starts, all⟩ := i
  refine ⟨first, rest ++ [c], rfl, starts, ?_⟩
  exact List.forall_mem_append.mpr ⟨all, List.forall_mem_singleton.mpr continues⟩

theorem IsIdentifier.isName (i : IsIdentifier w) : IsName w :=
  ⟨[w], List.cons_ne_nil _ _, List.forall_mem_singleton.mpr i, by simp [List.intercalate]⟩

theorem IsName.dotted {i : List Char} (identifier : IsIdentifier i) (n : IsName w) :
    IsName (i ++ '.' :: w) := by
  obtain ⟨identifiers, some, each, rfl⟩ := n
  refine ⟨i :: identifiers, List.cons_ne_nil _ _, List.forall_mem_cons.mpr ⟨identifier, each⟩, ?_⟩
  obtain ⟨next, others, rfl⟩ := List.exists_cons_of_ne_nil some
  simp [List.intercalate]

/-! ### The grammar, character by character -/

/-- Whether every character goes on with an identifier, or is a dot in front of one. -/
def Follows : List Char → Prop
  | [] => True
  | c :: rest => (continuesName c = true ∨ c = '.' ∧ atName rest = true) ∧ Follows rest

theorem follows_of_continues (continues : ∀ c ∈ w, continuesName c = true) : Follows w := by
  induction w with
  | nil => exact trivial
  | cons c w ih =>
    obtain ⟨here, others⟩ := List.forall_mem_cons.mp continues
    exact ⟨.inl here, ih others⟩

theorem atName_of_begins (starts : atName w = true) (begins : w <+: s) : atName s = true := by
  obtain ⟨rest, rfl⟩ := begins
  cases w with
  | nil => cases starts
  | cons c w => exact starts

theorem Follows.append (f : Follows w) (g : Follows s) : Follows (w ++ s) := by
  induction w with
  | nil => exact g
  | cons c w ih =>
    obtain ⟨here, later⟩ := f
    refine ⟨here.imp_right fun ⟨dot, starts⟩ => ⟨dot, ?_⟩, ih later⟩
    exact atName_of_begins starts (List.prefix_append w s)

theorem IsName.atName_and_follows (n : IsName w) : atName w = true ∧ Follows w := by
  obtain ⟨identifiers, some, each, rfl⟩ := n
  induction identifiers with
  | nil => exact absurd rfl some
  | cons i others ih =>
    obtain ⟨identifier, each⟩ := List.forall_mem_cons.mp each
    cases others with
    | nil =>
      have alone : ['.'].intercalate [i] = i := by simp [List.intercalate]
      rw [alone]
      exact ⟨identifier.atName, follows_of_continues identifier.continues⟩
    | cons j others =>
      obtain ⟨starts, follows⟩ := ih (List.cons_ne_nil _ _) each
      have dotted : ['.'].intercalate (i :: j :: others) =
          i ++ '.' :: ['.'].intercalate (j :: others) := by simp [List.intercalate]
      rw [dotted]
      refine ⟨atName_of_begins identifier.atName (List.prefix_append i _), ?_⟩
      exact (follows_of_continues identifier.continues).append ⟨.inr ⟨rfl, starts⟩, follows⟩

/-- What follows an identifier makes a name with it, and is a name if it starts like one. -/
theorem Follows.isName (f : Follows w) :
    (∀ i, IsIdentifier i → IsName (i ++ w)) ∧ (atName w = true → IsName w) := by
  induction w with
  | nil =>
    refine ⟨fun i identifier => ?_, nofun⟩
    rw [List.append_nil]
    exact identifier.isName
  | cons c rest ih =>
    obtain ⟨here, later⟩ := f
    obtain ⟨behind, whole⟩ := ih later
    refine ⟨fun i identifier => ?_, fun starts => ?_⟩
    · rcases here with continues | ⟨rfl, starts⟩
      · have longer := behind (i ++ [c]) (identifier.append continues)
        rwa [List.append_assoc] at longer
      · exact IsName.dotted identifier (whole starts)
    · exact behind [c] ⟨c, [], rfl, starts, nofun⟩

theorem isName_iff : IsName w ↔ atName w = true ∧ Follows w :=
  ⟨IsName.atName_and_follows, fun ⟨starts, follows⟩ => follows.isName.2 starts⟩

/-! ### Taking a name -/

theorem takeName_of_follows (here : continuesName c = true ∨ c = '.' ∧ atName rest = true) :
    takeName (c :: rest) = c :: takeName rest := by
  rw [takeName]
  split
  · rfl
  · rename_i other
    obtain ⟨rfl, starts⟩ := here.resolve_left other
    simp [starts]

theorem takeName_of_not_follows
    (here : ¬ (continuesName c = true ∨ c = '.' ∧ atName rest = true)) :
    takeName (c :: rest) = [] := by
  obtain ⟨other, apart⟩ := not_or.mp here
  simp [takeName, other, apart]

theorem takeName_isPrefix (s : List Char) : takeName s <+: s := by
  induction s with
  | nil => exact List.prefix_rfl
  | cons c rest ih =>
    by_cases here : continuesName c = true ∨ c = '.' ∧ atName rest = true
    · rw [takeName_of_follows here]
      exact (List.prefix_cons_inj c).mpr ih
    · rw [takeName_of_not_follows here]
      exact List.nil_prefix

theorem atName_takeName (starts : atName s = true) : atName (takeName s) = true := by
  cases s with
  | nil => cases starts
  | cons c rest =>
    rw [takeName_of_follows (.inl (continuesName_of_startsName starts))]
    exact starts

theorem follows_takeName (s : List Char) : Follows (takeName s) := by
  induction s with
  | nil => exact trivial
  | cons c rest ih =>
    by_cases here : continuesName c = true ∨ c = '.' ∧ atName rest = true
    · rw [takeName_of_follows here]
      refine ⟨?_, ih⟩
      rcases here with continues | ⟨dot, starts⟩
      · exact .inl continues
      · exact .inr ⟨dot, atName_takeName starts⟩
    · rw [takeName_of_not_follows here]
      exact trivial

/-- Nothing longer could have been taken. -/
theorem prefix_takeName (follows : Follows w) (begins : w <+: s) : w <+: takeName s := by
  induction w generalizing s with
  | nil => exact List.nil_prefix
  | cons c w ih =>
    obtain ⟨here, later⟩ := follows
    obtain ⟨rest, rfl⟩ := begins
    have inside : w <+: w ++ rest := List.prefix_append w rest
    have here : continuesName c = true ∨ c = '.' ∧ atName (w ++ rest) = true :=
      here.imp_right fun ⟨dot, starts⟩ => ⟨dot, atName_of_begins starts inside⟩
    rw [List.cons_append, takeName_of_follows here]
    exact (List.prefix_cons_inj c).mpr (ih later inside)

/-! ### Finding a name -/

/-- Whether a name that stands between two texts is the first and longest there. -/
structure IsFirstName (before name after : List Char) : Prop where
  first : ∀ c ∈ before, startsName c = false
  grammar : IsName name
  longest : ∀ longer, IsName longer → longer <+: name ++ after → longer <+: name

theorem findName_of_none (none : ∀ c ∈ s, startsName c = false) : findName s = .none := by
  have all : s.dropWhile (fun c => !startsName c) = [] :=
    List.dropWhile_eq_nil_iff.mpr fun c member => by simp [none c member]
  rw [findName, all]

theorem findName_append (first : ∀ c ∈ before, startsName c = false) (starts : atName s = true) :
    findName (before ++ s) = some (takeName s) := by
  have passed : ∀ c ∈ before, (!startsName c) = true := fun c member => by simp [first c member]
  cases s with
  | nil => cases starts
  | cons c rest =>
    have here : startsName c = true := starts
    have stop : (before ++ c :: rest).dropWhile (fun c => !startsName c) = c :: rest := by
      rw [List.dropWhile_append_of_pos passed, List.dropWhile_cons_of_neg (by simp [here])]
    rw [findName, stop]

/-- A text has nothing that a name could start with, or it has a first such character. -/
theorem none_or_first (s : List Char) : (∀ c ∈ s, startsName c = false) ∨
    ∃ before rest, s = before ++ rest ∧ (∀ c ∈ before, startsName c = false) ∧
      atName rest = true := by
  induction s with
  | nil => exact .inl nofun
  | cons c s ih =>
    cases here : startsName c with
    | true => exact .inr ⟨[], c :: s, rfl, nofun, here⟩
    | false =>
      rcases ih with none | ⟨before, rest, rfl, first, starts⟩
      · exact .inl (List.forall_mem_cons.mpr ⟨here, none⟩)
      · exact .inr ⟨c :: before, rest, rfl, List.forall_mem_cons.mpr ⟨here, first⟩, starts⟩

theorem findName_eq_none_iff : findName s = none ↔ ∀ c ∈ s, startsName c = false := by
  refine ⟨fun missing => ?_, findName_of_none⟩
  rcases none_or_first s with none | ⟨before, rest, rfl, first, starts⟩
  · exact none
  · rw [findName_append first starts] at missing
    cases missing

theorem findName_eq_some_iff :
    findName s = some name ↔ ∃ before after, s = before ++ (name ++ after) ∧
      IsFirstName before name after := by
  constructor
  · intro found
    rcases none_or_first s with none | ⟨before, rest, rfl, first, starts⟩
    · rw [findName_of_none none] at found
      cases found
    · rw [findName_append first starts] at found
      obtain rfl := Option.some.inj found
      obtain ⟨after, split⟩ := takeName_isPrefix rest
      refine ⟨before, after, by rw [split], first, ?_, ?_⟩
      · exact isName_iff.mpr ⟨atName_takeName starts, follows_takeName rest⟩
      · intro longer grammar begins
        rw [split] at begins
        exact prefix_takeName (isName_iff.mp grammar).2 begins
  · rintro ⟨before, after, rfl, first, grammar, longest⟩
    obtain ⟨starts, follows⟩ := isName_iff.mp grammar
    have inside : name <+: name ++ after := List.prefix_append name after
    have starts := atName_of_begins starts inside
    have taken : IsName (takeName (name ++ after)) :=
      isName_iff.mpr ⟨atName_takeName starts, follows_takeName _⟩
    have no_longer := longest _ taken (takeName_isPrefix _)
    have no_shorter := prefix_takeName follows inside
    rw [findName_append first starts, no_longer.eq_of_length_le no_shorter.length_le]

theorem IsFirstName.alone (f : IsFirstName before name after) : IsFirstName [] name [] := by
  refine ⟨nofun, f.grammar, fun longer _ begins => ?_⟩
  rwa [List.append_nil] at begins

theorem IsFirstName.eq_nil_of_follows (f : IsFirstName before name after) (follows : Follows w)
    (begins : w <+: after) : w = [] := by
  obtain ⟨starts, grammar⟩ := isName_iff.mp f.grammar
  have longer : IsName (name ++ w) :=
    isName_iff.mpr ⟨atName_of_begins starts (List.prefix_append name w), grammar.append follows⟩
  have no_longer := f.longest _ longer ((List.prefix_append_right_inj name).mpr begins)
  have length := no_longer.length_le
  rw [List.length_append] at length
  exact List.eq_nil_of_length_eq_zero (by omega)

/-- What stands behind the name does not go on with it; a dot there has no identifier behind. -/
theorem IsFirstName.stops (f : IsFirstName before name (c :: rest)) :
    continuesName c = false ∧ (c = '.' → atName rest = false) := by
  constructor
  · by_contra continues
    have follows : Follows [c] := ⟨.inl (eq_true_of_ne_false continues), trivial⟩
    have none := f.eq_nil_of_follows follows (List.prefix_append [c] rest)
    cases none
  · rintro rfl
    cases rest with
    | nil => rfl
    | cons d rest =>
      by_contra other
      have starts : startsName d = true := eq_true_of_ne_false other
      have follows : Follows ['.', d] :=
        ⟨.inr ⟨rfl, starts⟩, .inl (continuesName_of_startsName starts), trivial⟩
      have none := f.eq_nil_of_follows follows (List.prefix_append ['.', d] rest)
      cases none

theorem categoryName?_eq_some_iff {text name : String} :
    categoryName? text = some name ↔ findName text.toList = some name.toList := by
  rw [categoryName?, Option.map_eq_some_iff]
  constructor
  · rintro ⟨letters, found, rfl⟩
    rwa [String.toList_ofList]
  · exact fun found => ⟨_, found, String.ofList_toList⟩

/-- The category name in a text is the first one, and as long as possible.

    There is none exactly if nothing in the text is a letter, `_` or `$`.  Else it starts at the
    first such character, and the grammar admits no longer one from there; so behind it there
    is no character that goes on with it, and no dot with an identifier.  The name in a name
    is the name itself. -/
theorem name_first_and_longest (text : String) :
    (categoryName? text = none ↔ ∀ c ∈ text.toList, startsName c = false) ∧
    (∀ name, categoryName? text = some name ↔ ∃ before after,
      text.toList = before ++ (name.toList ++ after) ∧ IsFirstName before name.toList after) ∧
    (∀ before name c rest, IsFirstName before name (c :: rest) →
      continuesName c = false ∧ (c = '.' → atName rest = false)) ∧
    ∀ name, categoryName? text = some name → categoryName? name = some name := by
  refine ⟨?none, ?some, fun _ _ _ _ f => f.stops, ?again⟩
  case none => rw [categoryName?, Option.map_eq_none_iff, findName_eq_none_iff]
  case some =>
    intro name
    rw [categoryName?_eq_some_iff, findName_eq_some_iff]
  case again =>
    intro name
    simp only [categoryName?_eq_some_iff, findName_eq_some_iff]
    rintro ⟨before, after, _, f⟩
    exact ⟨[], [], by simp, f.alone⟩

/-- A dot is part of the name only in front of an identifier. -/
example : categoryName? " 9:a.b\u0663.$c.1d" = some "a.b\u0663.$c" := by
  decide +kernel

end EventAlerts.Rule
