/-
  EventAlerts/Proofs/Rule/Distinct.lean
  =====================================
  **The first of all equal ones** — what `distinctBy` keeps of a list, and in what order.

  `FirstsBy` says it without the function: of all elements with one key the first is kept,
  and what is kept stands in the order of the keys' first occurrences.  No other list is
  like that (`firstsBy_iff`).  Where elements are their own keys, dropping repetitions
  commutes with filters, and to do it before a partial map that is followed by another such
  step changes nothing (`distinctBy_filterMap`).
-/
import EventAlerts.Rule.Trigger
import Mathlib.Data.List.Nodup

namespace EventAlerts.Rule

variable {α β : Type}

/-- What remains of a list has no key twice. -/
theorem nodup_map_distinctBy [DecidableEq β] (key : α → β) (l : List α) :
    ((distinctBy key l).map key).Nodup := by
  induction l with
  | nil => exact List.nodup_nil
  | cons a rest ih =>
    rw [distinctBy, List.map_cons, List.nodup_cons]
    constructor
    · intro again
      obtain ⟨b, kept, same⟩ := List.mem_map.mp again
      have other : key b ≠ key a := by simpa using (List.mem_filter.mp kept).2
      exact other same
    · exact ih.sublist (List.filter_sublist.map key)

section Key

variable [DecidableEq β] {key : α → β} {l kept : List α}

theorem mem_distinctBy_iff {a : α} :
    a ∈ distinctBy key l ↔
      ∃ before after, l = before ++ a :: after ∧ ∀ b ∈ before, key b ≠ key a := by
  induction l with
  | nil => simp [distinctBy]
  | cons b rest ih =>
    rw [distinctBy, List.mem_cons, List.mem_filter, ih]
    constructor
    · rintro (rfl | ⟨⟨before, after, rfl, others⟩, apart⟩)
      · exact ⟨[], rest, rfl, by simp⟩
      · refine ⟨b :: before, after, rfl, List.forall_mem_cons.mpr ⟨?_, others⟩⟩
        exact fun same => of_decide_eq_true apart same.symm
    · rintro ⟨before, after, split, others⟩
      cases before with
      | nil => exact Or.inl (List.cons.inj split).1.symm
      | cons first before =>
        obtain ⟨rfl, rfl⟩ := List.cons.inj split
        obtain ⟨apart, others⟩ := List.forall_mem_cons.mp others
        exact Or.inr ⟨⟨before, after, rfl, others⟩, decide_eq_true apart.symm⟩

theorem pairwise_idxOf_map_distinctBy (key : α → β) (l : List α) :
    (distinctBy key l).Pairwise fun a b =>
      (l.map key).idxOf (key a) < (l.map key).idxOf (key b) := by
  induction l with
  | nil => exact List.Pairwise.nil
  | cons a rest ih =>
    have apart : ∀ b ∈ (distinctBy key rest).filter fun b => key b ≠ key a, key a ≠ key b := by
      intro b member
      have other : key b ≠ key a := by simpa using (List.mem_filter.mp member).2
      exact other.symm
    rw [distinctBy, List.pairwise_cons, List.map_cons]
    constructor
    · intro b member
      rw [List.idxOf_cons_self, List.idxOf_cons_ne _ (apart b member)]
      exact Nat.succ_pos _
    · refine (ih.filter _).imp_of_mem ?_
      intro b c first second before
      rw [List.idxOf_cons_ne _ (apart b first), List.idxOf_cons_ne _ (apart c second)]
      exact Nat.succ_lt_succ before

/-- What is left of a list if only the first of all elements with one key is kept. -/
structure FirstsBy (key : α → β) (l kept : List α) : Prop where
  mem_iff : ∀ a, a ∈ kept ↔
    ∃ before after, l = before ++ a :: after ∧ ∀ b ∈ before, key b ≠ key a
  ordered : kept.Pairwise fun a b => (l.map key).idxOf (key a) < (l.map key).idxOf (key b)

theorem FirstsBy.nodup (firsts : FirstsBy key l kept) : kept.Nodup :=
  firsts.ordered.imp fun before same => by
    rw [same] at before
    exact Nat.lt_irrefl _ before

theorem firstsBy_iff : FirstsBy key l kept ↔ kept = distinctBy key l := by
  have firsts : FirstsBy key l (distinctBy key l) :=
    ⟨fun _ => mem_distinctBy_iff, pairwise_idxOf_map_distinctBy key l⟩
  constructor
  · intro other
    have same : kept.Perm (distinctBy key l) :=
      (List.perm_ext_iff_of_nodup other.nodup firsts.nodup).mpr fun a =>
        (other.mem_iff a).trans (firsts.mem_iff a).symm
    refine same.eq_of_pairwise ?_ other.ordered firsts.ordered
    intro a b _ _ before after
    exact absurd before (Nat.lt_asymm after)
  · rintro rfl
    exact firsts

end Key

section Equal

variable [DecidableEq α]

theorem nodup_distinctBy (l : List α) : (distinctBy id l).Nodup := by
  simpa using nodup_map_distinctBy id l

theorem mem_distinctBy {a : α} {l : List α} : a ∈ distinctBy id l ↔ a ∈ l := by
  induction l with
  | nil => rfl
  | cons b rest ih =>
    rw [distinctBy, List.mem_cons, List.mem_cons, List.mem_filter, ih]
    by_cases same : a = b
    · simp [same]
    · simp [same]

theorem filter_distinctBy (p : α → Bool) (l : List α) :
    (distinctBy id l).filter p = distinctBy id (l.filter p) := by
  induction l with
  | nil => rfl
  | cons a rest ih =>
    have swap : ((distinctBy id rest).filter fun b => id b ≠ id a).filter p =
        (distinctBy id (rest.filter p)).filter fun b => id b ≠ id a := by
      rw [← ih, List.filter_filter, List.filter_filter]
      exact List.filter_congr fun b _ => Bool.and_comm _ _
    by_cases passes : p a = true
    · rw [distinctBy, List.filter_cons_of_pos passes, List.filter_cons_of_pos passes, distinctBy,
        swap]
    · rw [distinctBy, List.filter_cons_of_neg passes, List.filter_cons_of_neg passes, swap]
      -- what is filtered out is not equal to anything that is kept
      rw [List.filter_eq_self]
      intro b kept
      have passing : p b = true := (List.mem_filter.mp (mem_distinctBy.mp kept)).2
      simp only [id_eq, ne_eq, decide_not, Bool.not_eq_true', decide_eq_false_iff_not]
      rintro rfl
      exact passes passing

/-- Repetitions may be dropped on both sides of a partial map, or behind it only. -/
theorem distinctBy_filterMap [DecidableEq β] (f : α → Option β) (l : List α) :
    distinctBy id ((distinctBy id l).filterMap f) = distinctBy id (l.filterMap f) := by
  induction l with
  | nil => rfl
  | cons a rest ih =>
    rw [distinctBy]
    cases image : f a with
    | none =>
      rw [List.filterMap_cons_none image, List.filterMap_cons_none image, ← ih,
        List.filterMap_filter]
      congr 1
      apply List.filterMap_congr
      intro b _
      by_cases same : b = a
      · simp [same, image]
      · simp [same]
    | some c =>
      rw [List.filterMap_cons_some image, List.filterMap_cons_some image, distinctBy, distinctBy,
        ← ih]
      refine congrArg (c :: ·) ?_
      have left : (((distinctBy id rest).filter fun b => id b ≠ id a).filterMap f).filter
          (fun d => id d ≠ id c) =
          ((distinctBy id rest).filterMap f).filter fun d => id d ≠ id c := by
        rw [List.filter_filterMap, List.filter_filterMap, List.filterMap_filter]
        apply List.filterMap_congr
        intro b _
        by_cases same : b = a
        · simp [same, image, Option.filter]
        · simp [same]
      rw [filter_distinctBy _ (((distinctBy id rest).filter _).filterMap f), left,
        filter_distinctBy]

theorem pairwise_idxOf_distinctBy (l : List α) :
    (distinctBy id l).Pairwise fun a b => l.idxOf a < l.idxOf b := by
  simpa using pairwise_idxOf_map_distinctBy id l

end Equal

end EventAlerts.Rule
