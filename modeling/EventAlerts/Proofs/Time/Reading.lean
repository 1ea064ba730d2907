/-
  EventAlerts/Proofs/Time/Reading.lean
  ====================================
  **Times in the internet format, read back** — the text of a time tells which time it is.

  The hard part is the date, whose year is found by a quotient of days with corrections.  A
  year of an era starts at `startOfYear`, and what is divided (`yearDays`) grows with the day;
  so the quotient is the year in which the day lies if it is so at the first and the last day
  of every year, which is decided for all of them (`yearDays_startOfYear`).  From this the days
  can be counted again from the date (`toDays_ofDays`), and the whole text is read as the time
  that it was written for (`ofRfc3339?_rfc3339`).
-/
import EventAlerts.Proofs.Decimal.Digits
import EventAlerts.Time.Stamp
import Mathlib.Algebra.Ring.Nat
import Mathlib.Data.List.TakeWhile

namespace EventAlerts.Time

namespace Date

/-! ### Counting days -/

/-- The days of an era before its year with a number, counted from zero. -/
def startOfYear (year : Nat) : Nat := 365 * year + year / 4 - year / 100

/-- The days of an era before a day, without one for each leap year before it. -/
def yearDays (day : Nat) : Nat := day - day / 1460 + day / 36524 - day / 146096

theorem yearDays_mono {a b : Nat} (before : a ≤ b) : yearDays a ≤ yearDays b := by
  have single : a - a / 1460 ≤ b - b / 1460 := by omega
  have centuries : a / 36524 - a / 36524 / 4 ≤ b / 36524 - b / 36524 / 4 := by omega
  have nested : ∀ d : Nat, d / 146096 = d / 36524 / 4 := by omega
  rw [yearDays, yearDays, nested a, nested b]
  omega

theorem yearDays_startOfYear : ∀ year < 400,
    365 * year ≤ yearDays (startOfYear year) ∧
      (0 < year → yearDays (startOfYear year - 1) < 365 * year) := by
  decide +kernel

/-- The quotient that a date is made from is the year that the day lies in. -/
theorem startOfYear_le {day year : Nat} (within : day < 146097)
    (found : year = yearDays day / 365) :
    year < 400 ∧ startOfYear year ≤ day ∧ day ≤ startOfYear year + 365 := by
  have first : 365 * year ≤ yearDays day := by omega
  have last : yearDays day < 365 * (year + 1) := by omega
  have bound : year < 400 := by
    have most := yearDays_mono (Nat.le_of_lt_succ within)
    have total : yearDays 146096 = 145999 := rfl
    omega
  refine ⟨bound, ?_, ?_⟩
  · by_contra early
    have step := yearDays_mono (Nat.le_sub_one_of_lt (Nat.lt_of_not_le early))
    have short := (yearDays_startOfYear year bound).2
    have zero : startOfYear 0 = 0 := rfl
    by_cases some : 0 < year
    · have less := short some
      omega
    · have none : year = 0 := by omega
      rw [none, zero] at early
      omega
  · by_cases more : year + 1 < 400
    · have next : day < startOfYear (year + 1) := by
        by_contra late
        have step := yearDays_mono (Nat.le_of_not_lt late)
        have whole := (yearDays_startOfYear (year + 1) more).1
        omega
      unfold startOfYear at next ⊢
      omega
    · have final : year = 399 := by omega
      have begins : startOfYear 399 = 145731 := rfl
      rw [final, begins]
      omega

/-- The days from the first of January 1970 to a date. -/
def toDays (d : Date) : Int :=
  let year := d.year - (if d.month ≤ 2 then 1 else 0)
  let marchMonth := if d.month ≤ 2 then d.month + 9 else d.month - 3
  let dayOfYear := (153 * marchMonth + 2) / 5 + d.day - 1
  year / 400 * daysOfEra + startOfYear (year % 400).toNat + dayOfYear - epochShift

/-- The date of a day of a year of an era. -/
def inEra (era : Int) (year dayOfYear : Nat) : Date :=
  let marchMonth := (5 * dayOfYear + 2) / 153
  let month := if marchMonth < 10 then marchMonth + 3 else marchMonth - 9
  { year := year + era * 400 + (if month ≤ 2 then 1 else 0)
    month := month
    day := dayOfYear - (153 * marchMonth + 2) / 5 + 1 }

theorem toDays_inEra (era : Int) {year dayOfYear : Nat} (inside : year < 400)
    (within : dayOfYear ≤ 365) :
    (inEra era year dayOfYear).toDays =
      era * daysOfEra + startOfYear year + dayOfYear - epochShift := by
  have months : (5 * dayOfYear + 2) / 153 ≤ 11 := by omega
  have begins : (153 * ((5 * dayOfYear + 2) / 153) + 2) / 5 ≤ dayOfYear := by omega
  have sameEra : (year + era * 400 : Int) / 400 = era := by omega
  have sameYear : ((year + era * 400 : Int) % 400).toNat = year := by omega
  obtain ⟨march, found⟩ : ∃ march, march = (5 * dayOfYear + 2) / 153 := ⟨_, rfl⟩
  rw [← found] at months begins
  simp only [inEra, toDays, ← found]
  by_cases early : march < 10
  · have later : ¬ march + 3 ≤ 2 := by omega
    simp only [if_pos early, if_neg later, Int.add_zero, Int.sub_zero, Nat.add_sub_cancel,
      sameEra, sameYear]
    omega
  · have first : march - 9 ≤ 2 := by omega
    have back : march - 9 + 9 = march := by omega
    simp only [if_neg early, if_pos first, Int.add_sub_cancel, back, sameEra, sameYear]
    omega

theorem toDays_ofDays (days : Int) : (ofDays days).toDays = days := by
  have whole := Int.mul_ediv_add_emod (days + epochShift) daysOfEra
  have positive : 0 ≤ (days + epochShift) % daysOfEra := Int.emod_nonneg _ (by decide)
  have under : (days + epochShift) % daysOfEra < 146097 := Int.emod_lt_of_pos _ (by decide)
  have within : ((days + epochShift) % daysOfEra).toNat < 146097 := by omega
  obtain ⟨inside, begins, ends⟩ := startOfYear_le within rfl
  have parts : ofDays days =
      inEra ((days + epochShift) / daysOfEra)
        (yearDays ((days + epochShift) % daysOfEra).toNat / 365)
        (((days + epochShift) % daysOfEra).toNat -
          startOfYear (yearDays ((days + epochShift) % daysOfEra).toNat / 365)) := rfl
  rw [parts, toDays_inEra _ inside (by omega)]
  rw [Int.mul_comm] at whole
  omega

end Date

namespace Stamp

open EventAlerts.Decimal (natOfDigits natOfDigits_toDigits natOfDigits_zeros_append
  isDigit_of_mem_toDigits)

/-! ### Reading -/

/-- The number that a text starts with, and what stands behind the mark that ends it. -/
def numberBefore? (mark : Char) (s : List Char) : Option (Nat × List Char) :=
  match s.dropWhile Char.isDigit with
  | c :: rest => if c = mark then some (natOfDigits (s.takeWhile Char.isDigit), rest) else none
  | [] => none

/-- The year that a text starts with, and what stands behind the hyphen that ends it. -/
def takeYear? : List Char → Option (Int × List Char)
  | '-' :: s => (numberBefore? '-' s).map fun (n, rest) => (-(n : Int), rest)
  | '+' :: s => (numberBefore? '-' s).map fun (n, rest) => ((n : Int), rest)
  | s => (numberBefore? '-' s).map fun (n, rest) => ((n : Int), rest)

/-- The seconds and nanoseconds that a text ends with. -/
def endOfClock? (s : List Char) : Option (Nat × Nat) :=
  match numberBefore? 'Z' s with
  | some (second, []) => some (second, 0)
  | _ => do
    let (second, part) ← numberBefore? '.' s
    let (fraction, []) ← numberBefore? 'Z' part | none
    return (second, fraction * 10 ^ (10 - part.length))

/-- The time that a text tells, if its marks and digits stand where they have to. -/
def read? (s : List Char) : Option Stamp := do
  let (year, s) ← takeYear? s
  let (month, s) ← numberBefore? '-' s
  let (day, s) ← numberBefore? 'T' s
  let (hour, s) ← numberBefore? ':' s
  let (minute, s) ← numberBefore? ':' s
  let (second, fraction) ← endOfClock? s
  let date : Date := { year, month, day }
  let seconds := date.toDays * 86400 + (hour * 3600 + minute * 60 + second : Nat)
  return { nanos := seconds * nanosPerSecond + fraction }

/-- The time whose text this is. -/
def ofRfc3339? (s : String) : Option Stamp := (read? s.toList).filter fun t => t.rfc3339 = s

/-! ### A number with zeros in front of it -/

theorem natOfDigits_padded (width n : Nat) : natOfDigits (padded width n).toList = n := by
  rw [padded, String.toList_ofList, natOfDigits_zeros_append, natOfDigits_toDigits]

theorem isDigit_of_mem_padded (width n : Nat) {c : Char} (listed : c ∈ (padded width n).toList) :
    c.isDigit = true := by
  rw [padded, String.toList_ofList, List.mem_append] at listed
  rcases listed with zero | digit
  · rw [List.eq_of_mem_replicate zero]
    rfl
  · exact isDigit_of_mem_toDigits digit

theorem length_padded (width n : Nat) (wide : 0 < width) (fits : n < 10 ^ width) :
    (padded width n).toList.length = width := by
  have short := (Nat.length_toDigits_le_iff (by decide) wide).mpr fits
  rw [padded, String.toList_ofList, List.length_append, List.length_replicate]
  omega

theorem dropWhile_padded (width n : Nat) {mark : Char} (apart : mark.isDigit = false)
    (rest : List Char) :
    ((padded width n).toList ++ mark :: rest).dropWhile Char.isDigit = mark :: rest := by
  rw [List.dropWhile_append_of_pos fun _ => isDigit_of_mem_padded width n,
    List.dropWhile_cons_of_neg (by simp [apart])]

theorem takeWhile_padded (width n : Nat) {mark : Char} (apart : mark.isDigit = false)
    (rest : List Char) :
    ((padded width n).toList ++ mark :: rest).takeWhile Char.isDigit =
      (padded width n).toList := by
  rw [List.takeWhile_append_of_pos fun _ => isDigit_of_mem_padded width n,
    List.takeWhile_cons_of_neg (by simp [apart]), List.append_nil]

theorem numberBefore?_padded (width n : Nat) (mark : Char) (apart : mark.isDigit = false)
    (rest : List Char) :
    numberBefore? mark ((padded width n).toList ++ mark :: rest) = some (n, rest) := by
  rw [numberBefore?, dropWhile_padded width n apart, takeWhile_padded width n apart,
    natOfDigits_padded]
  exact if_pos rfl

/-- The number is not ended by a mark other than the one behind it. -/
theorem numberBefore?_of_ne (width n : Nat) (mark other : Char) (apart : mark.isDigit = false)
    (differ : mark ≠ other) (rest : List Char) :
    numberBefore? other ((padded width n).toList ++ mark :: rest) = none := by
  rw [numberBefore?, dropWhile_padded width n apart]
  exact if_neg differ

/-! ### The parts of a time -/

/-- A year without a sign starts with a digit. -/
theorem takeYear?_of_isDigit {first : Char} (digit : first.isDigit = true) (s : List Char) :
    takeYear? (first :: s) =
      (numberBefore? '-' (first :: s)).map fun (n, rest) => ((n : Int), rest) := by
  rw [takeYear?]
  · rintro _ same
    obtain ⟨rfl, -⟩ := List.cons.inj same
    exact absurd digit (by decide)
  · rintro _ same
    obtain ⟨rfl, -⟩ := List.cons.inj same
    exact absurd digit (by decide)

/-- A mark in front of a text is its first character. -/
theorem toList_marked (text : String) (mark : Char) (one : text.toList = [mark]) (s : String)
    (rest : List Char) : (text ++ s).toList ++ rest = mark :: (s.toList ++ rest) := by
  rw [String.toList_append, one]
  rfl

theorem takeYear?_yearText (year : Int) (rest : List Char) :
    takeYear? ((yearText year).toList ++ '-' :: rest) = some (year, rest) := by
  unfold yearText
  split
  · rename_i short
    have whole : (year.toNat : Int) = year := by omega
    have read := numberBefore?_padded 4 year.toNat '-' rfl rest
    cases digits : (padded 4 year.toNat).toList with
    | nil =>
      have four := length_padded 4 year.toNat (by decide) (by omega)
      rw [digits] at four
      exact absurd four (by decide)
    | cons first others =>
      have digit : first.isDigit = true :=
        isDigit_of_mem_padded 4 year.toNat (by rw [digits]; exact .head _)
      rw [digits] at read
      rw [List.cons_append, takeYear?_of_isDigit digit, ← List.cons_append, read,
        Option.map_some]
      simp only [whole]
  · split
    · rename_i before
      have whole : -(year.natAbs : Int) = year := by omega
      rw [toList_marked "-" '-' rfl, takeYear?, numberBefore?_padded 4 _ '-' rfl, Option.map_some]
      simp only [whole]
    · have whole : (year.natAbs : Int) = year := by omega
      rw [toList_marked "+" '+' rfl, takeYear?, numberBefore?_padded 4 _ '-' rfl, Option.map_some]
      simp only [whole]

theorem endOfClock?_fractionText (second : Nat) {fraction : Nat} (part : fraction < 1000000000) :
    endOfClock? ((padded 2 second).toList ++ ((fractionText fraction).toList ++ ['Z'])) =
      some (second, fraction) := by
  have shown : ∀ width n, 0 < width → n < 10 ^ width → n * 10 ^ (9 - width) = fraction →
      endOfClock? ((padded 2 second).toList ++ (("." ++ padded width n).toList ++ ['Z'])) =
        some (second, fraction) := by
    intro width n wide fits same
    have length : ((padded width n).toList ++ ['Z']).length = width + 1 := by
      rw [List.length_append, length_padded width n wide fits]
      rfl
    have scale : 10 - (width + 1) = 9 - width := by omega
    simp only [endOfClock?, toList_marked "." '.' rfl, numberBefore?_of_ne 2 second '.' 'Z' rfl
      (by decide), numberBefore?_padded 2 second '.' rfl,
      numberBefore?_padded width n 'Z' rfl, Option.bind_eq_bind,
      Option.bind_some, length, scale, same]
    rfl
  unfold fractionText
  split
  · rename_i zero
    have read := numberBefore?_padded 2 second 'Z' rfl []
    rw [zero]
    change endOfClock? ((padded 2 second).toList ++ ['Z']) = _
    rw [endOfClock?, read]
  · split
    · exact shown 3 (fraction / 1000000) (by decide) (by omega) (by omega)
    · split
      · exact shown 6 (fraction / 1000) (by decide) (by omega) (by omega)
      · exact shown 9 fraction (by decide) (by omega) (by omega)

theorem toList_rfc3339 (t : Stamp) :
    t.rfc3339.toList = (yearText t.date.year).toList ++ '-' :: ((padded 2 t.date.month).toList ++
      '-' :: ((padded 2 t.date.day).toList ++ 'T' :: ((padded 2 (t.secondOfDay / 3600)).toList ++
      ':' :: ((padded 2 (t.secondOfDay / 60 % 60)).toList ++
      ':' :: ((padded 2 (t.secondOfDay % 60)).toList ++
      ((fractionText t.fraction).toList ++ ['Z'])))))) := by
  simp [rfc3339, clockText]

/-- The days, the seconds of the day and the fraction make up the time. -/
theorem nanos_eq (t : Stamp) :
    (t.days * 86400 + t.secondOfDay) * nanosPerSecond + t.fraction = t.nanos := by
  have seconds : t.days * 86400 + t.secondOfDay = t.seconds := by
    unfold days secondOfDay
    omega
  have positive : 0 ≤ t.nanos % nanosPerSecond := Int.emod_nonneg _ (by decide)
  rw [seconds, fraction, Int.toNat_of_nonneg positive, Stamp.seconds]
  exact Int.ediv_mul_add_emod _ _

theorem read?_rfc3339 (t : Stamp) : read? t.rfc3339.toList = some t := by
  have part : t.fraction < 1000000000 := by
    have bound := Int.emod_lt_of_pos t.nanos (b := nanosPerSecond) (by decide)
    have unit : nanosPerSecond = 1000000000 := rfl
    unfold fraction
    omega
  have day : t.date.toDays = t.days := Date.toDays_ofDays t.days
  have clock : t.secondOfDay / 3600 * 3600 + t.secondOfDay / 60 % 60 * 60 + t.secondOfDay % 60 =
      t.secondOfDay := by omega
  rw [toList_rfc3339]
  simp only [read?, takeYear?_yearText, Option.bind_eq_bind, Option.bind_some,
    numberBefore?_padded 2 _ '-' rfl, numberBefore?_padded 2 _ 'T' rfl,
    numberBefore?_padded 2 _ ':' rfl, endOfClock?_fractionText _ part, day, clock,
    nanos_eq]
  rfl

theorem ofRfc3339?_rfc3339 (t : Stamp) : ofRfc3339? t.rfc3339 = some t := by
  rw [ofRfc3339?, read?_rfc3339, Option.filter_some, if_pos (decide_eq_true rfl)]

end Stamp

end EventAlerts.Time
