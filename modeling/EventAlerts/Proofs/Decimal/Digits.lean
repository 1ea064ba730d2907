/-
  EventAlerts/Proofs/Decimal/Digits.lean
  ======================================
  **Decimal digits** — the digits of a number are read as that number, also behind zeros.

  `Nat.toDigits` has its own theory in the library; here are the facts that the readers of this
  project ask for.
-/
import EventAlerts.Decimal.Reader
import Mathlib.Data.List.Basic

namespace EventAlerts.Decimal

theorem natOfDigits_concat (s : List Char) (c : Char) :
    natOfDigits (s ++ [c]) = natOfDigits s * 10 + (c.toNat - 48) :=
  List.foldl_append

theorem natOfDigits_toDigits (n : Nat) : natOfDigits (Nat.toDigits 10 n) = n := by
  have same : natOfDigits (Nat.toDigits 10 n) = Nat.ofDigitChars 10 (Nat.toDigits 10 n) 0 := by
    simp only [natOfDigits, Nat.ofDigitChars, Nat.mul_comm]
    rfl
  rw [same, Nat.ofDigitChars_ten_toDigits]

theorem natOfDigits_zeros_append (count : Nat) (s : List Char) :
    natOfDigits (List.replicate count '0' ++ s) = natOfDigits s := by
  induction count with
  | zero => rfl
  | succ count ih => exact ih

theorem isDigit_of_mem_toDigits {n : Nat} {c : Char} (listed : c ∈ Nat.toDigits 10 n) :
    c.isDigit = true :=
  Nat.isDigit_of_mem_toDigits (by decide) (by decide) listed

/-- A number has a first digit. -/
theorem exists_cons_toDigits (n : Nat) :
    ∃ c rest, Nat.toDigits 10 n = c :: rest ∧ c.isDigit = true := by
  cases digits : Nat.toDigits 10 n with
  | nil => exact absurd digits Nat.toDigits_ne_nil
  | cons c rest => exact ⟨c, rest, rfl, isDigit_of_mem_toDigits (digits ▸ List.mem_cons_self)⟩

/-- The digits of a number do not start with a zero, but for a zero alone. -/
theorem toDigits_ne_zero_cons (n : Nat) (c : Char) (rest : List Char) :
    Nat.toDigits 10 n ≠ '0' :: c :: rest := by
  induction n using Nat.strongRecOn generalizing c rest with
  | ind n ih =>
    intro digits
    rw [Nat.toDigits_eq_if (by decide)] at digits
    split at digits
    · exact absurd (congrArg List.length digits) (by simp)
    · rename_i large
      -- the digits before the last one start with a zero as well, so they are a zero alone
      obtain ⟨first, others, before, _⟩ := exists_cons_toDigits (n / 10)
      rw [before, List.cons_append] at digits
      obtain ⟨rfl, _⟩ := List.cons.inj digits
      cases others with
      | nil =>
        have value := natOfDigits_toDigits (n / 10)
        rw [before] at value
        have zero : natOfDigits ['0'] = 0 := rfl
        omega
      | cons second others => exact ih (n / 10) (by omega) second others before

end EventAlerts.Decimal
