/-
  EventAlerts/Proofs/Text/Replacing.lean
  ======================================
  **Replacing one text by another** — how a replacement goes along a text, and when two
  replacements do not disturb each other.

  A text is read from the left: where the old text begins, the new one is put in its place,
  and any other character is kept (`replace_induction`).  A new text that keeps clear of
  another text, which means that it neither holds it nor begins or ends with a character of
  it, makes no occurrence of the other one and takes none away.  So two replacements that
  keep clear of each other come to the same in either order, unless what they replace shares
  characters (`replace_comm`).
-/
import EventAlerts.Text.Basic
import Mathlib.Data.List.Infix

namespace EventAlerts.Text

variable {old new s w x y : List Char}

/-! ### Going along a text -/

theorem replaceFrom_eq_drop (old new : List Char) (skip : Nat) (s : List Char) :
    replaceFrom old new skip s = replaceFrom old new 0 (s.drop skip) := by
  induction s generalizing skip with
  | nil => simp [replaceFrom]
  | cons c rest ih =>
    cases skip with
    | zero => rfl
    | succ skip =>
      rw [replaceFrom, List.drop_succ_cons]
      exact ih skip

theorem replaceFrom_append (nonempty : old ≠ []) (new rest : List Char) :
    replaceFrom old new 0 (old ++ rest) = new ++ replaceFrom old new 0 rest := by
  obtain ⟨c, tail, rfl⟩ := List.exists_cons_of_ne_nil nonempty
  have here : (c :: tail).isPrefixOf (c :: (tail ++ rest)) = true :=
    List.isPrefixOf_iff_prefix.mpr (List.prefix_append (c :: tail) rest)
  rw [List.cons_append, replaceFrom, if_pos here, replaceFrom_eq_drop]
  simp

theorem replaceFrom_of_apart {c : Char} {rest : List Char} (apart : ¬ old <+: c :: rest) :
    replaceFrom old new 0 (c :: rest) = c :: replaceFrom old new 0 rest := by
  rw [replaceFrom, if_neg (mt List.isPrefixOf_iff_prefix.mp apart)]

/-- A text is empty, begins with the text that is replaced, or begins with a character that
    is kept. -/
theorem replace_induction (nonempty : old ≠ []) {motive : List Char → Prop} (s : List Char)
    (nil : motive []) (found : ∀ rest, motive rest → motive (old ++ rest))
    (kept : ∀ c rest, ¬ old <+: c :: rest → motive rest → motive (c :: rest)) : motive s := by
  induction length : s.length using Nat.strong_induction_on generalizing s with
  | _ n ih =>
    cases s with
    | nil => exact nil
    | cons c rest =>
      by_cases here : old <+: c :: rest
      · obtain ⟨after, split⟩ := here
        rw [← split]
        have some : 0 < old.length := List.length_pos_of_ne_nil nonempty
        have whole := congrArg List.length split
        rw [List.length_append] at whole
        exact found after (ih after.length (by omega) after rfl)
      · exact kept c rest here (ih rest.length (by simp [← length]) rest rfl)

/-- A stretch in which no occurrence begins is kept. -/
theorem replaceFrom_append_of_unbegun
    (unbegun : ∀ before after, x = before ++ after → after ≠ [] → ¬ old <+: after ++ y) :
    replaceFrom old new 0 (x ++ y) = x ++ replaceFrom old new 0 y := by
  induction x with
  | nil => rfl
  | cons c x ih =>
    have here : ¬ old <+: c :: (x ++ y) := unbegun [] (c :: x) rfl (List.cons_ne_nil c x)
    rw [List.cons_append, replaceFrom_of_apart here, ih, List.cons_append]
    intro before after split
    exact unbegun (c :: before) after (congrArg (c :: ·) split)

theorem replaceFrom_of_absent (absent : ¬ old <:+: s) : replaceFrom old new 0 s = s := by
  have kept : replaceFrom old new 0 (s ++ []) = s ++ replaceFrom old new 0 [] := by
    apply replaceFrom_append_of_unbegun
    rintro before after rfl _ starts
    rw [List.append_nil] at starts
    exact absent (starts.isInfix.trans (List.suffix_append before after).isInfix)
  simpa [replaceFrom] using kept

/-! ### Keeping clear -/

/-- A text that does not hold another one, and whose first and last characters do not belong
    to it. -/
structure KeepsClear (x w : List Char) : Prop where
  nonempty : x ≠ []
  first : ∀ c ∈ x.head?, c ∉ w
  last : ∀ c ∈ x.getLast?, c ∉ w
  apart : ¬ w <:+: x

theorem keepsClear_iff :
    KeepsClear x w ↔
      x ≠ [] ∧ x.head?.all (· ∉ w) ∧ x.getLast?.all (· ∉ w) ∧ ¬ w <:+: x := by
  simp only [Option.all_eq_true, decide_eq_true_eq]
  constructor
  · rintro ⟨nonempty, first, last, apart⟩
    exact ⟨nonempty, first, last, apart⟩
  · rintro ⟨nonempty, first, last, apart⟩
    exact ⟨nonempty, first, last, apart⟩

instance (x w : List Char) : Decidable (KeepsClear x w) :=
  decidable_of_iff _ keepsClear_iff.symm

theorem KeepsClear.exists_cons (clear : KeepsClear x w) : ∃ c rest, x = c :: rest ∧ c ∉ w := by
  obtain ⟨c, rest, rfl⟩ := List.exists_cons_of_ne_nil clear.nonempty
  exact ⟨c, rest, rfl, clear.first c rfl⟩

theorem KeepsClear.unbegun (clear : KeepsClear x w) {before after : List Char}
    (split : x = before ++ after) (some : after ≠ []) : ¬ w <+: after ++ y := by
  intro starts
  rcases List.prefix_or_prefix_of_prefix starts (List.prefix_append after y) with inside | across
  · apply clear.apart
    rw [split]
    exact inside.isInfix.trans (List.suffix_append before after).isInfix
  · -- the other text would go on behind the last character
    have last : after.getLast some ∉ w := by
      apply clear.last
      rw [split, List.getLast?_append_of_ne_nil before some, List.getLast?_eq_some_getLast some]
      rfl
    exact last (across.subset (List.getLast_mem some))

theorem infix_of_unbegun
    (unbegun : ∀ before after, x = before ++ after → after ≠ [] → ¬ w <+: after ++ y)
    (occurs : w <:+: x ++ y) : w <:+: y := by
  induction x with
  | nil => exact occurs
  | cons c x ih =>
    rcases List.infix_cons_iff.mp occurs with starts | later
    · exact absurd starts (unbegun [] (c :: x) rfl (List.cons_ne_nil c x))
    · refine ih ?_ later
      intro before after split
      exact unbegun (c :: before) after (congrArg (c :: ·) split)

theorem prefix_of_prefix_replace {c : Char} {tail : List Char} (nonempty : old ≠ [])
    (foreign : c ∉ w) (starts : w <+: replaceFrom old (c :: tail) 0 s) : w <+: s := by
  induction w generalizing s with
  | nil => exact List.nil_prefix
  | cons d w ih =>
    obtain ⟨first, others⟩ := not_or.mp (mt List.mem_cons.mpr foreign)
    cases s with
    | nil => exact starts
    | cons e rest =>
      by_cases here : old <+: e :: rest
      · obtain ⟨after, split⟩ := here
        rw [← split, replaceFrom_append nonempty] at starts
        exact absurd (List.cons_prefix_cons.mp starts).1.symm first
      · rw [replaceFrom_of_apart here, List.cons_prefix_cons] at starts
        exact List.cons_prefix_cons.mpr ⟨starts.1, ih others starts.2⟩

/-- A new text that keeps clear of another text makes no occurrence of it. -/
theorem infix_of_infix_replace (nonempty : old ≠ []) (clear : KeepsClear new w)
    (occurs : w <:+: replaceFrom old new 0 s) : w <:+: s := by
  induction s using replace_induction nonempty with
  | nil => exact occurs
  | found rest ih =>
    rw [replaceFrom_append nonempty] at occurs
    have later := infix_of_unbegun (fun _ _ => clear.unbegun) occurs
    exact (ih later).trans (List.suffix_append old rest).isInfix
  | kept c rest apart ih =>
    have whole := occurs
    rw [replaceFrom_of_apart apart] at occurs
    rcases List.infix_cons_iff.mp occurs with starts | later
    · obtain ⟨first, tail, rfl, foreign⟩ := clear.exists_cons
      rw [← replaceFrom_of_apart apart] at starts
      exact (prefix_of_prefix_replace nonempty foreign starts).isInfix
    · exact List.infix_cons (ih later)

/-- What keeps clear of a text adds no occurrence of it when it is put behind. -/
theorem KeepsClear.infix_of_infix_append (clear : KeepsClear y w) (occurs : w <:+: x ++ y) :
    w <:+: x := by
  induction x with
  | nil => exact absurd occurs clear.apart
  | cons c x ih =>
    rcases List.infix_cons_iff.mp occurs with starts | later
    · have front : c :: x <+: c :: x ++ y := List.prefix_append _ y
      rcases List.prefix_or_prefix_of_prefix starts front with inside | ⟨rest, rfl⟩
      · exact inside.isInfix
      · obtain ⟨d, tail, rfl, foreign⟩ := clear.exists_cons
        cases rest with
        | nil => simp
        | cons e rest =>
          have same := (List.prefix_append_right_inj (c :: x)).mp starts
          refine absurd ?_ foreign
          rw [← (List.cons_prefix_cons.mp same).1]
          exact List.mem_append_right _ List.mem_cons_self
    · exact List.infix_cons (ih later)

/-! ### Two replacements -/

/-- Whether a text has an occurrence of `b` that begins within one of `a`. -/
def BeginsWithin (b a s : List Char) : Prop :=
  ∃ before front back after, s = before ++ (a ++ after) ∧ a = front ++ back ∧ back ≠ [] ∧
    b <+: back ++ after

section Two

variable {a b u v : List Char}

theorem BeginsWithin.append (within : BeginsWithin b a y) (x : List Char) :
    BeginsWithin b a (x ++ y) := by
  obtain ⟨before, front, back, after, rfl, split, some, begins⟩ := within
  exact ⟨x ++ before, front, back, after, (List.append_assoc x before _).symm, split, some, begins⟩

theorem replace_comm_of_found (some : a ≠ []) (clear : KeepsClear v b) {rest : List Char}
    (apart : ¬ BeginsWithin b a (a ++ rest))
    (ih : replaceFrom a v 0 (replaceFrom b u 0 rest) = replaceFrom b u 0 (replaceFrom a v 0 rest)) :
    replaceFrom a v 0 (replaceFrom b u 0 (a ++ rest)) =
      replaceFrom b u 0 (replaceFrom a v 0 (a ++ rest)) := by
  have kept : replaceFrom b u 0 (a ++ rest) = a ++ replaceFrom b u 0 rest := by
    apply replaceFrom_append_of_unbegun
    intro front back split nonempty begins
    exact apart ⟨[], front, back, rest, rfl, split, nonempty, begins⟩
  have behind : replaceFrom b u 0 (v ++ replaceFrom a v 0 rest) =
      v ++ replaceFrom b u 0 (replaceFrom a v 0 rest) :=
    replaceFrom_append_of_unbegun fun _ _ => clear.unbegun
  rw [kept, replaceFrom_append some, replaceFrom_append some, behind, ih]

/-- Replacements whose new texts keep clear of what the other one replaces commute on a text
    in which the two do not share characters. -/
theorem replace_comm (first : a ≠ []) (second : b ≠ []) (clear : KeepsClear v b)
    (clear' : KeepsClear u a) (apart : ¬ BeginsWithin b a s) (apart' : ¬ BeginsWithin a b s) :
    replaceFrom a v 0 (replaceFrom b u 0 s) = replaceFrom b u 0 (replaceFrom a v 0 s) := by
  induction length : s.length using Nat.strong_induction_on generalizing s with
  | _ n ih =>
    have shorter : ∀ {x y : List Char}, s = x ++ y → x ≠ [] →
        replaceFrom a v 0 (replaceFrom b u 0 y) = replaceFrom b u 0 (replaceFrom a v 0 y) := by
      rintro x y rfl some
      have less : y.length < n := by
        have := List.length_pos_of_ne_nil some
        rw [List.length_append] at length
        omega
      exact ih y.length less (fun within => apart (within.append x))
        (fun within => apart' (within.append x)) rfl
    by_cases begins : a <+: s
    · obtain ⟨rest, rfl⟩ := begins
      exact replace_comm_of_found first clear apart (shorter rfl first)
    by_cases begins' : b <+: s
    · obtain ⟨rest, rfl⟩ := begins'
      exact (replace_comm_of_found second clear' apart' (shorter rfl second).symm).symm
    cases s with
    | nil => rfl
    | cons c rest =>
      obtain ⟨e, tail, rfl, foreign⟩ := clear.exists_cons
      obtain ⟨e', tail', rfl, foreign'⟩ := clear'.exists_cons
      -- neither replacement makes an occurrence of the other at the front
      have still : ¬ b <+: c :: replaceFrom a (e :: tail) 0 rest := by
        rw [← replaceFrom_of_apart begins]
        exact mt (prefix_of_prefix_replace first foreign) begins'
      have still' : ¬ a <+: c :: replaceFrom b (e' :: tail') 0 rest := by
        rw [← replaceFrom_of_apart begins']
        exact mt (prefix_of_prefix_replace second foreign') begins
      rw [replaceFrom_of_apart begins, replaceFrom_of_apart begins', replaceFrom_of_apart still,
        replaceFrom_of_apart still', shorter (x := [c]) rfl (List.cons_ne_nil c [])]

end Two

end EventAlerts.Text
