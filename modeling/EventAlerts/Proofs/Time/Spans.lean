/-
  EventAlerts/Proofs/Time/Spans.lean
  ==================================
  **Spans that can be written** — exactly those whose seconds have 64 bits.

  Every sum that is built on the way is checked, so nothing larger is read.  A span within the
  bound is read from its seconds and the nanoseconds behind them (`longhand`), where no product
  gets out of 64 bits.
-/
import EventAlerts.Proofs.Decimal.Digits
import EventAlerts.Proofs.Text.Bytes
import EventAlerts.Time.SpanText

namespace EventAlerts.Time

open Decimal (exists_cons_toDigits isDigit_of_mem_toDigits natOfDigits_toDigits)

variable {a b total t : Span} {s rest digits : List Char} {n m : Nat}

/-! ### Nothing larger is read -/

theorem le_of_word? (word : word? n = some m) : n ≤ maxWord := by
  unfold word? at word
  split at word
  · assumption
  · cases word

theorem le_of_add? (sum : SpanPart.add? a b = some t) : t / nanosPerSecond ≤ maxWord := by
  obtain ⟨_, checked, sum⟩ := Option.bind_eq_some_iff.mp sum
  cases word : word? ((a + b) / nanosPerSecond) with
  | none =>
    rw [word] at checked
    cases checked
  | some seconds =>
    obtain rfl := Option.some.inj sum
    exact le_of_word? word

theorem le_of_addTo? {p : SpanPart} (added : p.addTo? total = some t) :
    t / nanosPerSecond ≤ maxWord := by
  obtain ⟨unit, _, added⟩ := Option.bind_eq_some_iff.mp added
  obtain ⟨whole, _, added⟩ := Option.bind_eq_some_iff.mp added
  obtain ⟨_, _, added⟩ := Option.bind_eq_some_iff.mp added
  obtain ⟨sum, summed, added⟩ := Option.bind_eq_some_iff.mp added
  split at added
  · obtain rfl := Option.some.inj added
    exact le_of_add? summed
  · obtain ⟨fraction, _, added⟩ := Option.bind_eq_some_iff.mp added
    exact le_of_add? added

theorem le_of_sumParts {bound : Nat} (within : total / nanosPerSecond ≤ maxWord)
    (read : sumParts bound total s = some t) : t / nanosPerSecond ≤ maxWord := by
  induction bound generalizing total s with
  | zero => cases read
  | succ bound ih =>
    unfold sumParts at read
    split at read
    · cases read
      exact within
    · split at read
      · obtain ⟨⟨part, rest⟩, _, read⟩ := Option.bind_eq_some_iff.mp read
        obtain ⟨total, added, read⟩ := Option.bind_eq_some_iff.mp read
        exact ih (le_of_addTo? added) read
      · cases read

theorem le_of_spanOfText? {text : String} (read : spanOfText? text = some t) :
    t / nanosPerSecond ≤ maxWord := by
  simp only [spanOfText?] at read
  split at read
  · obtain rfl := Option.some.inj read
    decide
  · split at read
    · cases read
    · exact le_of_sumParts (by decide) read

/-! ### All others are -/

theorem takeDigits_append (number : ∀ c ∈ digits, c.isDigit = true)
    (stop : ∀ c ∈ rest.head?, c.isDigit = false ∧ Text.isBlank c = false) :
    takeDigits (digits ++ rest) = (digits, rest) := by
  induction digits with
  | nil =>
    cases rest with
    | nil => rfl
    | cons c rest =>
      obtain ⟨other, solid⟩ := stop c rfl
      simp [takeDigits, other, solid]
  | cons c digits ih =>
    obtain ⟨digit, others⟩ := List.forall_mem_cons.mp number
    simp [takeDigits, digit, ih others]

theorem take?_seconds (n : Nat) (rest : List Char) :
    SpanPart.take? (Nat.toDigits 10 n ++ 's' :: ' ' :: rest) =
      some ({ whole := Nat.toDigits 10 n, unit := ['s'] }, ' ' :: rest) := by
  have taken : takeDigits (Nat.toDigits 10 n ++ 's' :: ' ' :: rest) =
      (Nat.toDigits 10 n, 's' :: ' ' :: rest) := by
    apply takeDigits_append (fun c listed => isDigit_of_mem_toDigits listed)
    rintro c ⟨⟩
    decide
  rw [SpanPart.take?, taken]
  rfl

theorem take?_nanos (n : Nat) :
    SpanPart.take? (Nat.toDigits 10 n ++ ['n', 's']) =
      some ({ whole := Nat.toDigits 10 n, unit := ['n', 's'] }, []) := by
  have taken : takeDigits (Nat.toDigits 10 n ++ ['n', 's']) =
      (Nat.toDigits 10 n, ['n', 's']) := by
    apply takeDigits_append (fun c listed => isDigit_of_mem_toDigits listed)
    rintro c ⟨⟩
    decide
  rw [SpanPart.take?, taken]
  rfl

theorem word?_of_le (within : n ≤ maxWord) : word? n = some n :=
  if_pos within

theorem discard_word? (within : n ≤ maxWord) : discard (word? n) = some () := by
  rw [word?_of_le within]
  rfl

theorem add?_of_le (within : (a + b) / nanosPerSecond ≤ maxWord) :
    SpanPart.add? a b = some (a + b) := by
  rw [SpanPart.add?, discard_word? within]
  rfl

theorem addTo?_seconds (within : n ≤ maxWord) :
    SpanPart.addTo? 0 { whole := Nat.toDigits 10 n, unit := ['s'] } =
      some (n * nanosPerSecond) := by
  have unit : SpanUnit.named? (String.ofList ['s']) = some (.fine nanosPerSecond) := by decide
  have seconds : (0 + n * nanosPerSecond) / nanosPerSecond ≤ maxWord := by
    rwa [Nat.zero_add, Nat.mul_div_cancel n (by decide)]
  rw [SpanPart.addTo?]
  simp only [unit, natOfDigits_toDigits, word?_of_le within, SpanUnit.fine, add?_of_le seconds,
    Option.bind_eq_bind, Option.bind_some]
  rw [if_pos (Nat.le_refl _), Nat.div_self (by decide), Nat.mul_one, discard_word? within,
    Option.bind_some, Nat.zero_add]
  rfl

theorem addTo?_nanos (whole : total % nanosPerSecond = 0) (small : n ≤ maxWord)
    (within : (total + n) / nanosPerSecond ≤ maxWord) :
    SpanPart.addTo? total { whole := Nat.toDigits 10 n, unit := ['n', 's'] } =
      some (total + n) := by
  have unit : SpanUnit.named? (String.ofList ['n', 's']) = some (.fine 1) := by decide
  rw [← Nat.mul_one n] at within
  rw [SpanPart.addTo?]
  simp only [unit, natOfDigits_toDigits, word?_of_le small, SpanUnit.fine, add?_of_le within,
    Option.bind_eq_bind, Option.bind_some]
  rw [if_neg (by decide), whole, Nat.mul_one, Nat.zero_add, discard_word? small,
    Option.bind_some]
  rfl

theorem isBlank_of_isDigit {c : Char} (digit : c.isDigit = true) : Text.isBlank c = false :=
  Text.forall_digit (by decide) c digit

theorem sumParts_toDigits (bound : Nat) (total : Span) (n : Nat) (s : List Char) :
    sumParts (bound + 1) total (Nat.toDigits 10 n ++ s) =
      (SpanPart.take? (Nat.toDigits 10 n ++ s)).bind fun taken =>
        (taken.1.addTo? total).bind fun total => sumParts bound total taken.2 := by
  obtain ⟨c, rest, digits, digit⟩ := exists_cons_toDigits n
  rw [digits, List.cons_append, sumParts, List.dropWhile_cons_of_neg]
  · simp only [digit, if_true]
    rfl
  · rw [isBlank_of_isDigit digit]
    exact Bool.false_ne_true

/-- A span as its seconds and the nanoseconds behind them. -/
def longhand (t : Span) : String :=
  String.ofList (Nat.toDigits 10 (t / nanosPerSecond) ++ 's' :: ' ' ::
    (Nat.toDigits 10 (t % nanosPerSecond) ++ ['n', 's']))

theorem spanOfText?_longhand (within : t / nanosPerSecond ≤ maxWord) :
    spanOfText? (longhand t) = some t := by
  have part : t % nanosPerSecond ≤ maxWord :=
    (Nat.mod_lt t (by decide : 0 < nanosPerSecond)).le.trans (by decide)
  have whole : t / nanosPerSecond * nanosPerSecond + t % nanosPerSecond = t :=
    Nat.div_add_mod' t nanosPerSecond
  have letter : 's' ∈ (longhand t).toList := by simp [longhand]
  have unlike : (longhand t).toList ≠ ['0'] := by
    intro zero
    rw [zero] at letter
    exact absurd letter (by decide)
  have solid : ¬ Text.isAllBlank (longhand t) = true := by
    intro blank
    exact absurd (List.all_eq_true.mp blank 's' letter) (by decide)
  obtain ⟨bound, length⟩ : ∃ bound, (longhand t).toList.length = bound + 2 := by
    refine ⟨(longhand t).toList.length - 2, ?_⟩
    simp [longhand]
    omega
  simp only [spanOfText?, if_neg unlike, if_neg solid, length]
  rw [longhand, String.toList_ofList, sumParts_toDigits, take?_seconds, Option.bind_some,
    addTo?_seconds within, Option.bind_some]
  -- the blank between the two numbers is skipped
  change sumParts (bound + 1 + 1) _ (Nat.toDigits 10 _ ++ _) = _
  rw [sumParts_toDigits, take?_nanos, Option.bind_some,
    addTo?_nanos (Nat.mul_mod_left _ _) part (by rwa [whole]), Option.bind_some, whole]
  rfl

end EventAlerts.Time
