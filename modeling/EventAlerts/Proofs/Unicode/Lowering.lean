/-
  EventAlerts/Proofs/Unicode/Lowering.lean
  ========================================
  **Lower case forms in ASCII** — which texts have a lower case form of ASCII characters.

  ASCII texts have, and there the form is the one letter by letter.  Outside of ASCII there
  is one character whose form is an ASCII letter, the Kelvin sign, which becomes a `k`.  It
  is not the form of any character (`kelvinSign_not_mem_lower`).  So a text that was made
  lower case once, or is a part of such a text, has the form letter by letter if it has an
  ASCII form (`map_toLower_of_lower`).

  What is said about the rows of mappings is decided over the table, row by row.
-/
import EventAlerts.Unicode.Case

namespace EventAlerts.Unicode

/-- The only character outside of ASCII with a lower case form in ASCII. -/
def kelvinSign : Char := '\u212a'

def isAscii (c : Char) : Bool := c.toNat < 128

/-! ### The rows -/

theorem mapRow?_eq_some {rows : List CaseRow} {n m : Nat} (found : mapRow? rows n = some m) :
    ∃ first last stride target, (first, last, stride, target) ∈ rows ∧
      first ≤ n ∧ n ≤ last ∧ (n - first) % stride = 0 ∧ m = target + (n - first) := by
  obtain ⟨⟨first, last, stride, target⟩, row, rfl⟩ := Option.map_eq_some_iff.mp found
  have within := List.find?_some row
  simp only [Bool.and_eq_true, decide_eq_true_eq, beq_iff_eq] at within
  obtain ⟨⟨low, high⟩, step⟩ := within
  exact ⟨first, last, stride, target, List.mem_of_find?_eq_some row, low, high, step, rfl⟩

/-- Whether a row leads around the Kelvin sign, to characters, and from outside of ASCII into
    ASCII only from the Kelvin sign. -/
def isPlainRow : CaseRow → Bool
  | (first, last, _, target) =>
    let reached := target + (last - first)
    (reached < kelvinSign.toNat || kelvinSign.toNat < target) &&
      (reached < 0xD800 || (0xE000 ≤ target && reached < 0x110000)) &&
      (128 ≤ target || last < 128 || (first = kelvinSign.toNat && last = kelvinSign.toNat))

theorem isPlainRow_of_mem : ∀ row ∈ lowerRows, isPlainRow row = true := by
  decide +kernel

theorem mapRow?_lowerRows {n m : Nat} (found : mapRow? lowerRows n = some m) :
    (Char.ofNat m).toNat = m ∧ m ≠ kelvinSign.toNat ∧
      (m < 128 → n < 128 ∨ n = kelvinSign.toNat) := by
  obtain ⟨first, last, stride, target, row, low, high, _, rfl⟩ := mapRow?_eq_some found
  have plain := isPlainRow_of_mem _ row
  simp only [isPlainRow, Bool.and_eq_true, Bool.or_eq_true, decide_eq_true_eq] at plain
  obtain ⟨⟨around, valid⟩, leads⟩ := plain
  have character : (target + (n - first)).isValidChar := by
    unfold Nat.isValidChar
    omega
  refine ⟨?_, by omega, by omega⟩
  rw [Char.ofNat, dif_pos character]
  rfl

/-! ### Characters -/

theorem lowerForm_of_isAscii {c : Char} (ascii : isAscii c = true) : lowerForm c = [c.toLower] :=
  if_pos (of_decide_eq_true ascii)

theorem isAscii_toLower {c : Char} (ascii : isAscii c = true) : isAscii c.toLower = true := by
  have all : ∀ n < 128, isAscii (Char.ofNat n).toLower = true := by decide
  rw [← Char.ofNat_toNat c]
  exact all c.toNat (of_decide_eq_true ascii)

/-- The forms outside of ASCII, but for `İ`, are those of the table. -/
theorem lowerForm_of_not_isAscii {c : Char} (beyond : isAscii c = false) (dotted : c ≠ 'İ') :
    (mapRow? lowerRows c.toNat = none ∧ lowerForm c = [c]) ∨
      ∃ n, mapRow? lowerRows c.toNat = some n ∧ lowerForm c = [Char.ofNat n] := by
  have large : ¬ c.toNat < 128 := of_decide_eq_false beyond
  rw [lowerForm, if_neg large, if_neg dotted]
  cases mapped : mapRow? lowerRows c.toNat with
  | none => exact Or.inl ⟨rfl, rfl⟩
  | some n => exact Or.inr ⟨n, rfl, rfl⟩

/-- The ways in which a lower case form is made. -/
theorem lowerForm_cases (c : Char) :
    (isAscii c = true ∧ lowerForm c = [c.toLower]) ∨
      (c = 'İ' ∧ lowerForm c = ['i', '\u0307']) ∨
      (isAscii c = false ∧ c ≠ 'İ' ∧ mapRow? lowerRows c.toNat = none ∧ lowerForm c = [c]) ∨
      ∃ n, isAscii c = false ∧ mapRow? lowerRows c.toNat = some n ∧
        lowerForm c = [Char.ofNat n] := by
  cases ascii : isAscii c with
  | true => exact .inl ⟨rfl, lowerForm_of_isAscii ascii⟩
  | false =>
    by_cases dotted : c = 'İ'
    · rw [dotted]
      exact .inr (.inl ⟨rfl, by decide⟩)
    rcases lowerForm_of_not_isAscii ascii dotted with ⟨unmapped, form⟩ | ⟨n, mapped, form⟩
    · exact .inr (.inr (.inl ⟨rfl, dotted, unmapped, form⟩))
    · exact .inr (.inr (.inr ⟨n, rfl, mapped, form⟩))

theorem kelvinSign_not_mem_lowerForm (c : Char) : kelvinSign ∉ lowerForm c := by
  intro member
  cases ascii : isAscii c with
  | true =>
    rw [lowerForm_of_isAscii ascii] at member
    have small := isAscii_toLower ascii
    rw [← List.mem_singleton.mp member] at small
    cases small
  | false =>
    by_cases dotted : c = 'İ'
    · rw [dotted] at member
      revert member
      decide
    rcases lowerForm_of_not_isAscii ascii dotted with ⟨unmapped, form⟩ | ⟨n, mapped, form⟩
    · rw [form] at member
      rw [← List.mem_singleton.mp member] at unmapped
      revert unmapped
      decide
    · rw [form] at member
      obtain ⟨reached, around, _⟩ := mapRow?_lowerRows mapped
      refine around (reached.symm.trans ?_)
      rw [List.mem_singleton.mp member]

/-- A character with a form in ASCII is in ASCII itself, or is the Kelvin sign. -/
theorem isAscii_of_lowerForm {c : Char} (other : c ≠ kelvinSign)
    (form : ∀ d ∈ lowerForm c, isAscii d = true) : isAscii c = true := by
  cases ascii : isAscii c with
  | true => rfl
  | false =>
    by_cases dotted : c = 'İ'
    · rw [dotted] at form
      exact absurd (form '\u0307' (by decide)) (by decide)
    rcases lowerForm_of_not_isAscii ascii dotted with ⟨_, same⟩ | ⟨n, mapped, same⟩
    · rw [same] at form
      exact ascii.symm.trans (form c (List.mem_singleton_self c))
    · rw [same] at form
      obtain ⟨reached, _, leads⟩ := mapRow?_lowerRows mapped
      have small := of_decide_eq_true (form _ (List.mem_singleton_self _))
      rw [reached] at small
      rcases leads small with inside | kelvin
      · exact absurd inside (of_decide_eq_false ascii)
      · exact absurd (Char.toNat_inj.mp kelvin) other

/-! ### Texts -/

/-- `Σ` has two forms, both outside of ASCII. -/
theorem sigmaForm_eq (before after : List Char) :
    sigmaForm before after = 'ς' ∨ sigmaForm before after = 'σ' := by
  unfold sigmaForm
  split
  · exact Or.inl rfl
  · exact Or.inr rfl

theorem kelvinSign_not_mem_lowerAfter (before s : List Char) :
    kelvinSign ∉ lowerAfter before s := by
  induction s generalizing before with
  | nil => exact List.not_mem_nil
  | cons c rest ih =>
    intro member
    rcases List.mem_append.mp member with first | later
    · split at first
      · rcases sigmaForm_eq before rest with form | form <;>
        · rw [form] at first
          revert first
          decide
      · exact kelvinSign_not_mem_lowerForm c first
    · exact ih _ later

theorem kelvinSign_not_mem_lower (s : List Char) : kelvinSign ∉ lower s :=
  kelvinSign_not_mem_lowerAfter [] s

-- the letters before only matter for sigmas, which the form has none of
theorem map_toLower_of_lowerAfter {before s : List Char} (plain : kelvinSign ∉ s)
    (form : ∀ d ∈ lowerAfter before s, isAscii d = true) :
    s.map Char.toLower = lowerAfter before s := by
  induction s generalizing before with
  | nil => rfl
  | cons c rest ih =>
    obtain ⟨first, others⟩ := List.forall_mem_append.mp form
    have small : isAscii c = true := by
      split at first
      · have sigma := first _ (List.mem_singleton_self _)
        rcases sigmaForm_eq before rest with form | form <;>
        · rw [form] at sigma
          cases sigma
      · refine isAscii_of_lowerForm ?_ first
        rintro rfl
        exact plain List.mem_cons_self
    have noSigma : c ≠ 'Σ' := by
      rintro rfl
      cases small
    rw [List.map_cons, ih (fun later => plain (List.mem_cons_of_mem c later)) others, lowerAfter,
      if_neg noSigma, lowerForm_of_isAscii small]
    rfl

/-- A text without Kelvin signs whose form is in ASCII has its form letter by letter. -/
theorem map_toLower_of_lower {s : List Char} (plain : kelvinSign ∉ s)
    (form : ∀ d ∈ lower s, isAscii d = true) : s.map Char.toLower = lower s :=
  map_toLower_of_lowerAfter plain form

end EventAlerts.Unicode
