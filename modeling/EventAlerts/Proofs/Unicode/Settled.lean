/-
  EventAlerts/Proofs/Unicode/Settled.lean
  =======================================
  **Lower case once and for all** — a lower case form is its own lower case form.

  What `lowerForm` gives is `IsSettled`: it has no other form, and it is no `Σ`, so that its
  place in a text does not matter either.  Of the table this says that no row leads to a
  code point that a row starts from (`mapRow?_of_mapRow?`), which is decided for each two rows
  by their bounds, and by parity where these overlap.

  No row leads to a blank, so a text that is trimmed stays trimmed in lower case, and to trim
  a text and make it lower case twice is to do it once (`lower_trim_lower_trim`).
-/
import EventAlerts.Proofs.Text.Bytes
import EventAlerts.Proofs.Unicode.Lowering
import EventAlerts.Text.Basic
import Mathlib.Data.List.Basic

namespace EventAlerts.Unicode

/-- Whether a character is left as it is by lower case, wherever it stands. -/
def IsSettled (c : Char) : Prop := c ≠ 'Σ' ∧ lowerForm c = [c]

/-! ### The rows -/

/-- The last code point that a row leads to. -/
def CaseRow.reached (row : CaseRow) : Nat := row.2.2.2 + (row.2.1 - row.1)

/-- Whether what the first row leads to lies between the bounds of the second. -/
def overlaps (row other : CaseRow) : Bool :=
  Nat.ble other.1 row.reached && Nat.ble row.2.2.2 other.2.1

/-- Whether the first row leads only to code points that the second skips. -/
def isSkipped (row other : CaseRow) : Bool :=
  (row.1 = row.2.1 || row.2.2.1 = 2) && other.2.2.1 = 2 && (row.2.2.2 + other.1) % 2 = 1

theorem all_isSkipped :
    (lowerRows.all fun row => (lowerRows.filter (overlaps row)).all (isSkipped row)) = true := by
  decide +kernel

/-- Whether a row leads past `İ`, which has a form of its own, and past all blanks. -/
def isClearRow : CaseRow → Bool
  | (first, last, _, target) =>
    let reached := target + (last - first)
    (reached < 'İ'.toNat || 'İ'.toNat < target) &&
      Text.blankRanges.all fun r => reached < r.1 || r.2 < target

theorem isClearRow_of_mem : ∀ row ∈ lowerRows, isClearRow row = true := by
  decide +kernel

variable {n m : Nat} {c d : Char}

/-- What a row leads to is mapped no further. -/
theorem mapRow?_of_mapRow? (found : mapRow? lowerRows n = some m) :
    mapRow? lowerRows m = none := by
  cases again : mapRow? lowerRows m with
  | none => rfl
  | some k =>
    obtain ⟨first, last, stride, target, row, low, high, step, reached⟩ := mapRow?_eq_some found
    obtain ⟨first', last', stride', target', row', low', high', step', _⟩ := mapRow?_eq_some again
    have inside :
        overlaps (first, last, stride, target) (first', last', stride', target') = true := by
      simp only [overlaps, CaseRow.reached, Bool.and_eq_true, Nat.ble_eq]
      omega
    have skipped := List.all_eq_true.mp (List.all_eq_true.mp all_isSkipped _ row) _
      (List.mem_filter.mpr ⟨row', inside⟩)
    simp only [isSkipped, Bool.and_eq_true, Bool.or_eq_true, decide_eq_true_eq] at skipped
    obtain ⟨⟨single | pairs, pairs'⟩, parity⟩ := skipped
    · subst pairs'
      omega
    · subst pairs pairs'
      omega

theorem mapRow?_clear (found : mapRow? lowerRows n = some m) :
    m ≠ 'İ'.toNat ∧ ∀ r ∈ Text.blankRanges, ¬ (r.1 ≤ m ∧ m ≤ r.2) := by
  obtain ⟨first, last, stride, target, row, low, high, _, rfl⟩ := mapRow?_eq_some found
  have clear := isClearRow_of_mem _ row
  simp only [isClearRow, Bool.and_eq_true, Bool.or_eq_true, List.all_eq_true,
    decide_eq_true_eq] at clear
  obtain ⟨around, blanks⟩ := clear
  refine ⟨by omega, ?_⟩
  intro r listed
  have beside := blanks r listed
  omega

/-! ### Characters -/

theorem isSettled_of_unmapped (beyond : isAscii c = false) (dotted : c ≠ 'İ')
    (unmapped : mapRow? lowerRows c.toNat = none) : IsSettled c := by
  constructor
  · rintro rfl
    revert unmapped
    decide
  · rcases lowerForm_of_not_isAscii beyond dotted with ⟨_, form⟩ | ⟨m, mapped, _⟩
    · exact form
    · rw [unmapped] at mapped
      cases mapped

theorem isSettled_toLower (ascii : isAscii c = true) : IsSettled c.toLower := by
  have small : c.toNat < 128 := of_decide_eq_true ascii
  have same : c.toLower ≠ 'Σ' ∧ c.toLower.toLower = c.toLower :=
    Text.forall_char_below 128 (by decide) c small
  exact ⟨same.1, by rw [lowerForm_of_isAscii (isAscii_toLower ascii), same.2]⟩

theorem isSettled_of_mapped (beyond : isAscii c = false)
    (mapped : mapRow? lowerRows c.toNat = some n) : IsSettled (Char.ofNat n) := by
  obtain ⟨reached, _, leads⟩ := mapRow?_lowerRows mapped
  by_cases small : n < 128
  · -- only the Kelvin sign leads into ASCII
    rcases leads small with inside | kelvin
    · exact absurd inside (of_decide_eq_false beyond)
    · rw [kelvin] at mapped
      have letter : n = 'k'.toNat := by
        have k : mapRow? lowerRows kelvinSign.toNat = some 'k'.toNat := by decide +kernel
        exact Option.some.inj (mapped.symm.trans k)
      rw [letter]
      exact ⟨by decide, by decide⟩
  · refine isSettled_of_unmapped ?_ ?_ ?_
    · exact decide_eq_false (by rwa [reached])
    · intro same
      refine (mapRow?_clear mapped).1 (reached.symm.trans ?_)
      rw [same]
    · rw [reached]
      exact mapRow?_of_mapRow? mapped

/-- A lower case form consists of settled characters. -/
theorem isSettled_of_mem_lowerForm (listed : d ∈ lowerForm c) : IsSettled d := by
  rcases lowerForm_cases c with ⟨ascii, form⟩ | ⟨_, form⟩ | ⟨beyond, dotted, unmapped, form⟩ |
    ⟨n, beyond, mapped, form⟩ <;> rw [form] at listed
  · rw [List.mem_singleton.mp listed]
    exact isSettled_toLower ascii
  · have both : d = 'i' ∨ d = '\u0307' := by simpa using listed
    rcases both with rfl | rfl
    · exact ⟨by decide, by decide⟩
    · exact ⟨by decide, by decide +kernel⟩
  · rw [List.mem_singleton.mp listed]
    exact isSettled_of_unmapped beyond dotted unmapped
  · rw [List.mem_singleton.mp listed]
    exact isSettled_of_mapped beyond mapped

theorem isBlank_toLower (ascii : isAscii c = true) (solid : Text.isBlank c = false) :
    Text.isBlank c.toLower = false := by
  have small : c.toNat < 128 := of_decide_eq_true ascii
  have stays : Text.isBlank c = false → Text.isBlank c.toLower = false :=
    Text.forall_char_below 128 (by decide) c small
  exact stays solid

theorem isBlank_of_mem_lowerForm (solid : Text.isBlank c = false) (listed : d ∈ lowerForm c) :
    Text.isBlank d = false := by
  rcases lowerForm_cases c with ⟨ascii, form⟩ | ⟨_, form⟩ | ⟨_, _, _, form⟩ |
    ⟨n, _, mapped, form⟩ <;> rw [form] at listed
  · rw [List.mem_singleton.mp listed]
    exact isBlank_toLower ascii solid
  · have both : d = 'i' ∨ d = '\u0307' := by simpa using listed
    rcases both with rfl | rfl
    · decide
    · decide
  · rwa [List.mem_singleton.mp listed]
  · rw [List.mem_singleton.mp listed, ← Bool.not_eq_true, Text.isBlank, inRanges_iff,
      (mapRow?_lowerRows mapped).1]
    rintro ⟨r, blank, within⟩
    exact (mapRow?_clear mapped).2 r blank within

theorem lowerForm_ne_nil (c : Char) : lowerForm c ≠ [] := by
  rcases lowerForm_cases c with ⟨_, form⟩ | ⟨_, form⟩ | ⟨_, _, _, form⟩ | ⟨_, _, _, form⟩ <;>
  · rw [form]
    exact List.cons_ne_nil _ _

/-! ### Texts -/

/-- The form of a character where it stands in a text. -/
def formAt (before : List Char) (c : Char) (after : List Char) : List Char :=
  if c = 'Σ' then [sigmaForm before after] else lowerForm c

theorem lowerAfter_cons (before : List Char) (c : Char) (after : List Char) :
    lowerAfter before (c :: after) = formAt before c after ++ lowerAfter (c :: before) after :=
  rfl

variable {before after s : List Char}

theorem formAt_ne_nil : formAt before c after ≠ [] := by
  unfold formAt
  split
  · exact List.cons_ne_nil _ _
  · exact lowerForm_ne_nil c

theorem isSettled_of_mem_formAt (listed : d ∈ formAt before c after) : IsSettled d := by
  unfold formAt at listed
  split at listed
  · rw [List.mem_singleton.mp listed]
    rcases sigmaForm_eq before after with form | form <;>
    · rw [form]
      exact ⟨by decide, by decide +kernel⟩
  · exact isSettled_of_mem_lowerForm listed

theorem isBlank_of_mem_formAt (solid : Text.isBlank c = false)
    (listed : d ∈ formAt before c after) : Text.isBlank d = false := by
  unfold formAt at listed
  split at listed
  · rw [List.mem_singleton.mp listed]
    rcases sigmaForm_eq before after with form | form <;>
    · rw [form]
      decide
  · exact isBlank_of_mem_lowerForm solid listed

theorem isSettled_of_mem_lowerAfter (listed : d ∈ lowerAfter before s) : IsSettled d := by
  induction s generalizing before with
  | nil => cases listed
  | cons c rest ih =>
    rw [lowerAfter_cons] at listed
    rcases List.mem_append.mp listed with here | later
    · exact isSettled_of_mem_formAt here
    · exact ih later

theorem lowerAfter_of_settled (settled : ∀ c ∈ s, IsSettled c) : lowerAfter before s = s := by
  induction s generalizing before with
  | nil => rfl
  | cons c rest ih =>
    obtain ⟨⟨noSigma, form⟩, others⟩ := List.forall_mem_cons.mp settled
    rw [lowerAfter_cons, formAt, if_neg noSigma, form, ih others]
    rfl

/-- A text in lower case is its own lower case form. -/
theorem lower_lower (s : List Char) : lower (lower s) = lower s :=
  lowerAfter_of_settled fun _ => isSettled_of_mem_lowerAfter

/-! ### Ends of texts -/

/-- Whether a text does not start with a blank. -/
def StartsSolid (s : List Char) : Prop := ∀ c ∈ s.head?, Text.isBlank c = false

theorem startsSolid_dropWhile (s : List Char) : StartsSolid (s.dropWhile Text.isBlank) := by
  intro c first
  have stop := List.head?_dropWhile_not Text.isBlank s
  rwa [first] at stop

theorem StartsSolid.dropWhile_eq (solid : StartsSolid s) : s.dropWhile Text.isBlank = s := by
  cases s with
  | nil => rfl
  | cons c rest => exact List.dropWhile_cons_of_neg (by simp [solid c rfl])

theorem StartsSolid.of_start {t : List Char} (solid : StartsSolid t) (start : s <+: t) :
    StartsSolid s := by
  intro c first
  obtain ⟨rest, rfl⟩ := start
  exact solid c (by rw [List.head?_append, first]; rfl)

/-- Whether a text neither starts nor ends with a blank. -/
def IsTrimmed (s : List Char) : Prop := StartsSolid s ∧ StartsSolid s.reverse

theorem isTrimmed_trimWhere (s : List Char) : IsTrimmed (Text.trimWhere Text.isBlank s) := by
  constructor
  · -- what is dropped from the end leaves the start as it is
    refine (startsSolid_dropWhile s).of_start ?_
    have stays := List.dropWhile_suffix Text.isBlank (l := (s.dropWhile Text.isBlank).reverse)
    rw [← List.reverse_prefix, List.reverse_reverse] at stays
    exact stays
  · rw [Text.trimWhere, Text.dropEndWhile, List.reverse_reverse]
    exact startsSolid_dropWhile _

theorem IsTrimmed.trimWhere_eq (trimmed : IsTrimmed s) : Text.trimWhere Text.isBlank s = s := by
  rw [Text.trimWhere, trimmed.1.dropWhile_eq, Text.dropEndWhile, trimmed.2.dropWhile_eq,
    List.reverse_reverse]

theorem startsSolid_lowerAfter (solid : StartsSolid s) : StartsSolid (lowerAfter before s) := by
  intro d first
  cases s with
  | nil => cases first
  | cons c rest =>
    rw [lowerAfter_cons, List.head?_append_of_ne_nil _ formAt_ne_nil] at first
    exact isBlank_of_mem_formAt (solid c rfl) (List.mem_of_mem_head? first)

theorem lowerAfter_ends_solid (solid : StartsSolid s.reverse) :
    StartsSolid (lowerAfter before s).reverse := by
  induction s generalizing before with
  | nil => exact nofun
  | cons c rest ih =>
    intro d last
    rw [lowerAfter_cons, List.reverse_append] at last
    cases rest with
    | nil =>
      exact isBlank_of_mem_formAt (solid c rfl) (List.mem_reverse.mp (List.mem_of_mem_head? last))
    | cons next others =>
      have some : (lowerAfter (c :: before) (next :: others)).reverse ≠ [] := by
        rw [lowerAfter_cons, ne_eq, List.reverse_eq_nil_iff]
        exact List.append_ne_nil_of_left_ne_nil formAt_ne_nil _
      rw [List.head?_append_of_ne_nil _ some] at last
      refine ih (solid.of_start ?_) d last
      have whole : (c :: next :: others).reverse = (next :: others).reverse ++ [c] :=
        List.reverse_cons
      rw [whole]
      exact List.prefix_append _ _

theorem IsTrimmed.lower (trimmed : IsTrimmed s) : IsTrimmed (lower s) :=
  ⟨startsSolid_lowerAfter trimmed.1, lowerAfter_ends_solid trimmed.2⟩

/-- To trim a text and make it lower case twice is to do it once. -/
theorem lower_trim_lower_trim (raw : String) :
    Text.lower (Text.trim (Text.lower (Text.trim raw))) = Text.lower (Text.trim raw) := by
  have trimmed : IsTrimmed (lower (Text.trimWhere Text.isBlank raw.toList)) :=
    (isTrimmed_trimWhere raw.toList).lower
  simp only [Text.lower, Text.trim, String.toList_ofList, trimmed.trimWhere_eq, lower_lower]

end EventAlerts.Unicode
