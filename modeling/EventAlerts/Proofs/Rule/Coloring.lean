/-
  EventAlerts/Proofs/Rule/Coloring.lean
  =====================================
  **Colors as numbers and as digits** — where the two ways to write a color of an embed agree.

  `Writes` says which digits write a number to the base 16, and `Spells` what may stand around
  them.  A text is read as a number exactly if it spells one (`hexValue?_eq_some_iff`), so no text
  spells two numbers.  A number stands for the color of its low 24 bits, and digits stand for a
  color only if they write one of 24 bits.  So the two agree on all numbers that are colors and
  on no other.
-/
import EventAlerts.Proofs.Unicode.Settled
import EventAlerts.Rule.Template
import Mathlib.Data.List.Induction
import Mathlib.Data.List.TakeWhile

namespace EventAlerts

open Text (forall_char_below isBlank)

/-! ### Digits to the base 16 -/

namespace Decimal

/-- Whether digits write a number to the base 16, in any case and behind any zeros. -/
def Writes (digits : List Char) (n : Nat) : Prop :=
  ∃ zeros, digits.map Char.toLower = List.replicate zeros '0' ++ Nat.toDigits 16 n

variable {base d n : Nat} {c : Char} {s : List Char}

theorem Writes.ne_nil (writes : Writes s n) : s ≠ [] := by
  rintro rfl
  obtain ⟨zeros, same⟩ := writes
  exact Nat.toDigits_ne_nil (List.append_eq_nil_iff.mp same.symm).2

theorem toNat_le_of_isLower (lower : c.isLower = true) : c.toNat ≤ 'z'.toNat :=
  UInt32.le_iff_toNat_le.mp (of_decide_eq_true (Bool.and_eq_true_iff.mp lower).2)

theorem toNat_le_of_isUpper (upper : c.isUpper = true) : c.toNat ≤ 'Z'.toNat :=
  UInt32.le_iff_toNat_le.mp (of_decide_eq_true upper).2

theorem lt_of_digitValue? (digit : digitValue? base c = some d) : c.toNat < 123 := by
  obtain ⟨value, _⟩ := Option.filter_eq_some_iff.mp digit
  split at value
  · rename_i decimal
    exact (Char.isDigit_iff_toNat.mp decimal).2.trans_lt (by decide)
  split at value
  · rename_i lower
    exact (toNat_le_of_isLower lower).trans_lt (by decide)
  split at value
  · rename_i upper
    exact (toNat_le_of_isUpper upper).trans_lt (by decide)
  · cases value

theorem toLower_of_large (large : 123 ≤ c.toNat) : c.toLower = c := by
  refine dif_neg ?_
  rintro ⟨_, upper⟩
  have bounded : c.toNat ≤ 90 := UInt32.le_iff_toNat_le.mp upper
  omega

theorem digitChar_lt (small : d < 16) : d.digitChar.toNat < 123 := by
  revert d
  decide

/-- A character has the value of the digit that is its lower case form. -/
theorem digitValue?_iff : digitValue? 16 c = some d ↔ d < 16 ∧ c.toLower = d.digitChar := by
  constructor
  · intro digit
    have small : d < 16 := of_decide_eq_true (Option.filter_eq_some_iff.mp digit).2
    have agree : ∀ d < 16, digitValue? 16 c = some d → c.toLower = d.digitChar :=
      forall_char_below 123 (by decide +kernel) c (lt_of_digitValue? digit)
    exact ⟨small, agree d small digit⟩
  · rintro ⟨small, same⟩
    by_cases large : 123 ≤ c.toNat
    · -- such a character is its own lower case form, which is too large for a digit
      have bounded := digitChar_lt small
      rw [← same, toLower_of_large large] at bounded
      omega
    · have agree : ∀ d < 16, c.toLower = d.digitChar → digitValue? 16 c = some d :=
        forall_char_below 123 (by decide +kernel) c (by omega)
      exact agree d small same

/-- A digit can be told from all that may stand around it. -/
theorem apart_of_digitValue? (digit : digitValue? 16 c = some d) :
    isBlank c = false ∧ c ≠ '#' ∧ c ≠ '+' := by
  have apart : (digitValue? 16 c).isSome = true → isBlank c = false ∧ c ≠ '#' ∧ c ≠ '+' :=
    forall_char_below 123 (by decide +kernel) c (lt_of_digitValue? digit)
  exact apart (by rw [digit]; rfl)

/-! ### Reading digits -/

theorem readDigitsFrom_concat (acc : Nat) :
    readDigitsFrom base acc (s ++ [c]) = (readDigitsFrom base acc s).bind fun m =>
      (digitValue? base c).map fun d => m * base + d := by
  induction s generalizing acc with
  | nil => cases digit : digitValue? base c <;> simp [readDigitsFrom, digit]
  | cons first rest ih =>
    rw [List.cons_append, readDigitsFrom, readDigitsFrom, Option.bind_assoc]
    exact Option.bind_congr fun d _ => ih _

theorem digit_of_mem {acc : Nat} (read : readDigitsFrom base acc s = some n) (listed : c ∈ s) :
    ∃ d, digitValue? base c = some d := by
  induction s generalizing acc with
  | nil => cases listed
  | cons first rest ih =>
    obtain ⟨d, digit, read⟩ := Option.bind_eq_some_iff.mp read
    rcases List.mem_cons.mp listed with rfl | later
    · exact ⟨d, digit⟩
    · exact ih read later

/-- The last digit writes the remainder, and the digits before it write the quotient. -/
theorem writes_concat :
    Writes (s ++ [c]) n ↔
      ((s = [] ∧ n / 16 = 0) ∨ Writes s (n / 16)) ∧ c.toLower = (n % 16).digitChar := by
  have split : (s ++ [c]).map Char.toLower = s.map Char.toLower ++ [c.toLower] := List.map_append
  unfold Writes
  rw [split]
  by_cases small : n < 16
  · rw [Nat.div_eq_of_lt small, Nat.mod_eq_of_lt small, Nat.toDigits_of_lt_base small,
      Nat.toDigits_zero]
    constructor
    · rintro ⟨zeros, same⟩
      obtain ⟨front, last⟩ := List.append_inj' same rfl
      refine ⟨?_, List.singleton_inj.mp last⟩
      cases zeros with
      | zero => exact .inl ⟨List.map_eq_nil_iff.mp front, rfl⟩
      | succ zeros => exact .inr ⟨zeros, front.trans List.replicate_succ'⟩
    · rintro ⟨⟨rfl, _⟩ | ⟨zeros, front⟩, last⟩
      · exact ⟨0, by rw [last]; rfl⟩
      · exact ⟨zeros + 1, by rw [front, last, List.replicate_succ']⟩
  · rw [Nat.toDigits_of_base_le (by decide) (by omega : 16 ≤ n)]
    constructor
    · rintro ⟨zeros, same⟩
      rw [← List.append_assoc] at same
      obtain ⟨front, last⟩ := List.append_inj' same rfl
      exact ⟨.inr ⟨zeros, front⟩, List.singleton_inj.mp last⟩
    · rintro ⟨⟨_, none⟩ | ⟨zeros, front⟩, last⟩
      · omega
      · exact ⟨zeros, by rw [front, last, List.append_assoc]⟩

theorem readDigitsFrom_iff :
    readDigitsFrom 16 0 s = some n ↔ (s = [] ∧ n = 0) ∨ Writes s n := by
  induction s using List.reverseRecOn generalizing n with
  | nil =>
    constructor
    · intro read
      exact .inl ⟨rfl, (Option.some.inj read).symm⟩
    · rintro (⟨_, rfl⟩ | writes)
      · rfl
      · exact absurd rfl writes.ne_nil
  | append_singleton s c ih =>
    have nonempty : s ++ [c] ≠ [] := List.append_ne_nil_of_right_ne_nil _ (List.cons_ne_nil _ _)
    simp only [nonempty, false_and, false_or, writes_concat, ← ih, readDigitsFrom_concat,
      Option.bind_eq_some_iff, Option.map_eq_some_iff, digitValue?_iff]
    constructor
    · rintro ⟨m, front, d, ⟨small, last⟩, rfl⟩
      rw [show (m * 16 + d) / 16 = m by omega, show (m * 16 + d) % 16 = d by omega]
      exact ⟨front, last⟩
    · rintro ⟨front, last⟩
      exact ⟨n / 16, front, n % 16, ⟨Nat.mod_lt n (by decide), last⟩, by omega⟩

/-- What is read from digits is the number that they write. -/
theorem readNat?_iff : readNat? 16 s = some n ↔ Writes s n := by
  unfold readNat?
  cases s with
  | nil =>
    constructor
    · nofun
    · intro writes
      exact absurd rfl writes.ne_nil
  | cons c rest =>
    rw [if_neg (by simp), readDigitsFrom_iff]
    simp

theorem Writes.apart (writes : Writes s n) (listed : c ∈ s) :
    isBlank c = false ∧ c ≠ '#' ∧ c ≠ '+' := by
  obtain ⟨d, digit⟩ := digit_of_mem (readDigitsFrom_iff.mpr (.inr writes)) listed
  exact apart_of_digitValue? digit

theorem readUnsigned?_iff :
    readUnsigned? 16 s = some n ↔ Writes s n ∨ ∃ digits, s = '+' :: digits ∧ Writes digits n := by
  unfold readUnsigned?
  split
  · rename_i rest
    rw [readNat?_iff]
    constructor
    · intro writes
      exact .inr ⟨rest, rfl, writes⟩
    · rintro (writes | ⟨digits, same, writes⟩)
      · exact absurd rfl (writes.apart List.mem_cons_self).2.2
      · cases same
        exact writes
  · rename_i bare
    rw [readNat?_iff]
    constructor
    · exact .inl
    · rintro (writes | ⟨digits, same, _⟩)
      · exact writes
      · exact absurd same (bare digits)

end Decimal

/-! ### What stands around a text -/

namespace Text

open Unicode (IsTrimmed StartsSolid)

variable {s front back : List Char}

theorem exists_trimWhere (p : Char → Bool) (s : List Char) :
    ∃ front back, s = front ++ trimWhere p s ++ back ∧ (∀ c ∈ front, p c = true) ∧
      ∀ c ∈ back, p c = true := by
  refine ⟨s.takeWhile p, ((s.dropWhile p).reverse.takeWhile p).reverse, ?_, ?_, ?_⟩
  · rw [trimWhere, dropEndWhile, List.append_assoc, ← List.reverse_append,
      List.takeWhile_append_dropWhile, List.reverse_reverse, List.takeWhile_append_dropWhile]
  · exact List.all_eq_true.mp List.all_takeWhile
  · intro c listed
    exact List.all_eq_true.mp List.all_takeWhile c (List.mem_reverse.mp listed)

theorem isTrimmed_of_solid (solid : ∀ c ∈ s, isBlank c = false) : IsTrimmed s := by
  constructor
  · intro c first
    exact solid c (List.mem_of_mem_head? first)
  · intro c last
    exact solid c (List.mem_reverse.mp (List.mem_of_mem_head? last))

theorem trimWhere_append (trimmed : IsTrimmed s) (before : ∀ c ∈ front, isBlank c = true)
    (after : ∀ c ∈ back, isBlank c = true) : trimWhere isBlank (front ++ s ++ back) = s := by
  rw [trimWhere, List.append_assoc, List.dropWhile_append_of_pos before]
  cases s with
  | nil =>
    rw [List.nil_append, List.dropWhile_eq_nil_iff.mpr after]
    rfl
  | cons c rest =>
    have solid : StartsSolid (c :: rest ++ back) := trimmed.1
    rw [solid.dropWhile_eq, dropEndWhile, List.reverse_append,
      List.dropWhile_append_of_pos (fun d listed => after d (List.mem_reverse.mp listed)),
      trimmed.2.dropWhile_eq, List.reverse_reverse]

end Text

/-! ### Colors -/

namespace EmbedColor

open Decimal

variable {sign s : List Char} {n v : Nat}

/-- Whether a text is a number to the base 16 behind a sign and any number signs, with any blanks
    around it. -/
def Spells (sign s : List Char) (n : Nat) : Prop :=
  ∃ front count digits back,
    s = front ++ (List.replicate count '#' ++ (sign ++ digits)) ++ back ∧
    (∀ c ∈ front, isBlank c = true) ∧ (∀ c ∈ back, isBlank c = true) ∧ Writes digits n

theorem spells_of_hexValue? (read : hexValue? s = some n) : Spells [] s n ∨ Spells ['+'] s n := by
  obtain ⟨front, back, whole, before, after⟩ := Text.exists_trimWhere isBlank s
  have marks : ∃ count, (Text.trimWhere isBlank s).takeWhile (· = '#') =
      List.replicate count '#' :=
    ⟨_, List.eq_replicate_iff.mpr ⟨rfl, fun c listed =>
      of_decide_eq_true (List.all_eq_true.mp List.all_takeWhile c listed)⟩⟩
  obtain ⟨count, marks⟩ := marks
  have body := List.takeWhile_append_dropWhile (p := (· = '#')) (l := Text.trimWhere isBlank s)
  rw [marks] at body
  rw [← body] at whole
  rcases readUnsigned?_iff.mp read with writes | ⟨digits, signed, writes⟩
  · exact .inl ⟨front, count, _, back, whole, before, after, writes⟩
  · rw [signed] at whole
    exact .inr ⟨front, count, digits, back, whole, before, after, writes⟩

theorem hexValue?_of_spells (signed : sign = [] ∨ sign = ['+']) (spells : Spells sign s n) :
    hexValue? s = some n := by
  obtain ⟨front, count, digits, back, rfl, before, after, writes⟩ := spells
  have apart : ∀ c ∈ sign ++ digits, isBlank c = false ∧ c ≠ '#' := by
    intro c listed
    rcases List.mem_append.mp listed with here | later
    · rcases signed with rfl | rfl
      · cases here
      · rw [List.mem_singleton.mp here]
        decide
    · exact ⟨(writes.apart later).1, (writes.apart later).2.1⟩
  have solid : ∀ c ∈ List.replicate count '#' ++ (sign ++ digits), isBlank c = false := by
    intro c listed
    rcases List.mem_append.mp listed with mark | later
    · rw [List.eq_of_mem_replicate mark]
      decide
    · exact (apart c later).1
  have bare : (sign ++ digits).dropWhile (· = '#') = sign ++ digits := by
    cases rest : sign ++ digits with
    | nil => rfl
    | cons c others =>
      have other : c ≠ '#' := (apart c (by rw [rest]; exact List.mem_cons_self)).2
      exact List.dropWhile_cons_of_neg (by simpa using other)
  have marks : ∀ c ∈ List.replicate count '#', decide (c = '#') = true := by
    intro c mark
    exact decide_eq_true (List.eq_of_mem_replicate mark)
  rw [hexValue?, Text.trimWhere_append (Text.isTrimmed_of_solid solid) before after,
    List.dropWhile_append_of_pos marks, bare, readUnsigned?_iff]
  rcases signed with rfl | rfl
  · exact .inl writes
  · exact .inr ⟨digits, rfl, writes⟩

/-- A text is read as the number that it spells, with or without a plus. -/
theorem hexValue?_eq_some_iff :
    hexValue? s = some n ↔ Spells [] s n ∨ Spells ['+'] s n := by
  constructor
  · exact spells_of_hexValue?
  · rintro (bare | signed)
    · exact hexValue?_of_spells (.inl rfl) bare
    · exact hexValue?_of_spells (.inr rfl) signed

theorem value?_hex_iff {s : String} :
    (hex s).value? = some v ↔ v ≤ maxColor ∧ (Spells [] s.toList v ∨ Spells ['+'] s.toList v) := by
  rw [← hexValue?_eq_some_iff, value?, Option.filter_eq_some_iff, decide_eq_true_eq, and_comm]

theorem le_maxColor_of_value? {color : EmbedColor} (meant : color.value? = some v) :
    v ≤ maxColor := by
  cases color with
  | rgb m =>
    rw [← Option.some.inj meant]
    exact Nat.le_of_lt_succ (Nat.mod_lt m (Nat.succ_pos maxColor))
  | hex s => exact (value?_hex_iff.mp meant).1

/-- A number and the digits that write it mean one color if it fits into 24 bits.  Of a larger
    number the low bits are a color, and its digits mean none.  No color is larger than 24 bits,
    and only digits behind blanks, number signs and a plus mean one. -/
theorem value?_by_spelling (s : String) (n : Nat) :
    (Spells [] s.toList n →
      (n ≤ maxColor → (hex s).value? = some n ∧ (rgb n).value? = some n) ∧
      (maxColor < n → (hex s).value? = none ∧ (rgb n).value? = some (n % (maxColor + 1)))) ∧
    (∀ color v, value? color = some v → v ≤ maxColor) ∧
    (∀ v, (hex s).value? = some v ↔
      v ≤ maxColor ∧ (Spells [] s.toList v ∨ Spells ['+'] s.toList v)) := by
  refine ⟨?_, fun _ _ => le_maxColor_of_value?, fun _ => value?_hex_iff⟩
  intro spells
  constructor
  · intro small
    have low : n % (maxColor + 1) = n := Nat.mod_eq_of_lt (Nat.lt_succ_of_le small)
    exact ⟨value?_hex_iff.mpr ⟨small, .inl spells⟩, congrArg some low⟩
  · intro large
    refine ⟨?_, rfl⟩
    rw [value?, hexValue?_of_spells (.inl rfl) spells]
    exact Option.filter_some_neg (by simpa using large)

/-- Blanks, number signs, zeros and capitals do not matter. -/
theorem value?_by_spelling_of_padded_digits :
    Spells [] " ##00Ff ".toList 255 ∧ 255 ≤ maxColor ∧
      (hex " ##00Ff ").value? = some 255 ∧ (rgb 255).value? = some 255 := by
  have blank : ∀ c ∈ [' '], isBlank c = true := List.forall_mem_singleton.mpr (by decide)
  have spells : Spells [] " ##00Ff ".toList 255 :=
    ⟨[' '], 2, ['0', '0', 'F', 'f'], [' '], by decide, blank, blank, 2, by decide⟩
  have small : 255 ≤ maxColor := by decide
  exact ⟨spells, small, ((value?_by_spelling " ##00Ff " 255).1 spells).1 small⟩

/-- The number after the largest color is black, and its digits are no color. -/
theorem value?_apart_beyond_maxColor :
    Spells [] "#1000000".toList 16777216 ∧ 16777216 ≤ maxNumber ∧
      (hex "#1000000").value? ≠ (rgb 16777216).value? := by
  have spells : Spells [] "#1000000".toList 16777216 :=
    ⟨[], 1, "1000000".toList, [], by decide, nofun, nofun, 0, by decide⟩
  exact ⟨spells, by decide, by decide⟩

end EmbedColor

end EventAlerts
