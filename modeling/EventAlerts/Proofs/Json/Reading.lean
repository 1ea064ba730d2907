/-
  EventAlerts/Proofs/Json/Reading.lean
  ====================================
  **What is written is read back** — a JSON value on one line, read as a document.

  The value comes back as it was if the document can hold it exactly (`isExact`): it has no
  floating point numbers, whose text is that of a decimal, and its whole numbers fit 64 bits.
  Strings may hold any characters.  The reader is followed along the text that the printer
  writes: `takeParts?_escape` for strings, `takeNumber?_toDigits` for numbers, and
  `readsBack` for values, with anything behind the value that cannot belong to it.

  No text of this form has a line break in it, so documents can stand one on each line.
-/
import EventAlerts.Json.Parser
import EventAlerts.Json.Printer
import EventAlerts.Proofs.Decimal.Digits
import EventAlerts.Proofs.Text.Bytes
import Mathlib.Data.List.Induction
import Mathlib.Data.List.TakeWhile
import Mathlib.Tactic.IntervalCases

namespace EventAlerts.Json

open EventAlerts.Text (OnOneLine onOneLine_nil forall_char_below)

/-! ### Strings -/

/-- The part of a string that a character is read as, once it has been written. -/
def partOf (c : Char) : Part :=
  if c.toNat < 32 && c != '\x08' && c != '\x0c' && c != '\n' && c != '\r' && c != '\t' then
    .unit c.toNat
  else .char c

theorem escapeChar_of_plain {c : Char} (large : ¬ c.toNat < 32) (quote : c ≠ '"')
    (slash : c ≠ '\\') : escapeChar c = [c] := by
  unfold escapeChar
  split <;> first | contradiction | simp_all

theorem takeParts?_escapeChar (c : Char) (rest : List Char) :
    takeParts? (escapeChar c ++ rest) =
      (takeParts? rest).map fun (parts, rest) => (partOf c :: parts, rest) := by
  by_cases small : c.toNat < 32
  · refine forall_char_below 32 ?_ c small
    intro n bound
    interval_cases n <;> rfl
  by_cases quote : c = '"'
  · rw [quote]
    rfl
  by_cases slash : c = '\\'
  · rw [slash]
    rfl
  have plain := escapeChar_of_plain small quote slash
  have whole : partOf c = .char c := by
    simp [partOf, small]
  rw [plain, whole, List.singleton_append, takeParts?]
  · simp [small, slash]
  · exact quote
  · exact fun _ _ _ _ _ same => absurd same slash
  · exact fun _ _ same => absurd same slash

theorem takeParts?_escape (s rest : List Char) :
    takeParts? (s.flatMap escapeChar ++ '"' :: rest) = some (s.map partOf, rest) := by
  induction s with
  | nil => rfl
  | cons c s ih =>
    rw [List.flatMap_cons, List.append_assoc, takeParts?_escapeChar, ih]
    rfl

theorem charsOfParts?_partOf (c : Char) (parts : List Part) :
    charsOfParts? (partOf c :: parts) = (charsOfParts? parts).map (c :: ·) := by
  unfold partOf
  split
  · rename_i control
    have small : c.toNat < 32 := by
      simp only [Bool.and_eq_true, decide_eq_true_eq] at control
      omega
    have high : isHighSurrogate c.toNat = false := by
      simp [isHighSurrogate]
      omega
    have low : isLowSurrogate c.toNat = false := by
      simp [isLowSurrogate]
      omega
    -- the next part matters only behind half of a surrogate pair
    cases parts with
    | nil => simp [charsOfParts?, high, low]
    | cons next others => cases next <;> simp [charsOfParts?, high, low]
  · rw [charsOfParts?]

theorem charsOfParts?_map_partOf (s : List Char) : charsOfParts? (s.map partOf) = some s := by
  induction s with
  | nil => rfl
  | cons c s ih =>
    rw [List.map_cons, charsOfParts?_partOf, ih]
    rfl

theorem toList_stringText (s : String) :
    (stringText s).toList = '"' :: (s.toList.flatMap escapeChar ++ ['"']) := by
  rw [stringText, String.toList_ofList]
  rfl

theorem takeString?_escape (s : String) (rest : List Char) :
    takeString? (s.toList.flatMap escapeChar ++ '"' :: rest) = some (some s, rest) := by
  have parts := takeParts?_escape s.toList rest
  simp only [takeString?, parts, Option.map_some, charsOfParts?_map_partOf, String.ofList_toList]

/-! ### Numbers -/

/-- Whether a text is at its end, or at a mark that can stand behind a value. -/
def EndsValue (rest : List Char) : Prop := ∀ c ∈ rest.head?, c = ',' ∨ c = ']' ∨ c = '\x7d'

variable {rest : List Char}

theorem EndsValue.apart (ends : EndsValue rest) (p : Char → Bool) (comma : p ',' = false)
    (bracket : p ']' = false) (brace : p '\x7d' = false) : ∀ c ∈ rest.head?, p c = false := by
  intro c first
  rcases ends c first with rfl | rfl | rfl
  · exact comma
  · exact bracket
  · exact brace

theorem foldl_push (digits : List Char) (fits : Decimal.natOfDigits digits ≤ maxUnsigned) :
    digits.foldl Gathered.push ⟨0, 0, false⟩ = ⟨Decimal.natOfDigits digits, 0, false⟩ := by
  induction digits using List.reverseRecOn with
  | nil => rfl
  | append_singleton digits c ih =>
    rw [Decimal.natOfDigits_concat] at fits
    rw [List.foldl_append, ih (by omega), Decimal.natOfDigits_concat]
    have below : ¬ maxUnsigned < Decimal.natOfDigits digits * 10 + (c.toNat - 48) := by omega
    simp [Gathered.push, below]

theorem takeDigits?_toDigits (ends : ∀ c ∈ rest.head?, c.isDigit = false) (n : Nat) :
    takeDigits? (Nat.toDigits 10 n ++ rest) = some (Nat.toDigits 10 n, rest) := by
  have digits : ∀ c ∈ Nat.toDigits 10 n, c.isDigit = true := fun c =>
    Decimal.isDigit_of_mem_toDigits
  have none : rest.takeWhile Char.isDigit = [] ∧ rest.dropWhile Char.isDigit = rest := by
    cases rest with
    | nil => exact ⟨rfl, rfl⟩
    | cons c rest => simp [ends c rfl]
  rw [takeDigits?, List.takeWhile_append_of_pos digits, List.dropWhile_append_of_pos digits,
    none.1, none.2, List.append_nil]
  simp [Nat.toDigits_ne_nil]

theorem takeWhole?_toDigits (ends : ∀ c ∈ rest.head?, c.isDigit = false) (n : Nat) :
    takeWhole? (Nat.toDigits 10 n ++ rest) = some (Nat.toDigits 10 n, rest) := by
  rw [takeWhole?, takeDigits?_toDigits ends]
  split
  · rename_i c others behind same
    have digits := (Prod.mk.inj (Option.some.inj same)).1
    exact absurd digits (Decimal.toDigits_ne_zero_cons n c others)
  · rfl

theorem takeExponent?_of_endsValue (ends : EndsValue rest) :
    takeExponent? rest = some (none, rest) := by
  cases rest with
  | nil => rfl
  | cons c rest =>
    have other := ends.apart (fun c => c = 'e' || c = 'E') rfl rfl rfl c rfl
    simp only [takeExponent?, other, Bool.false_eq_true, if_false]

theorem toDigits_ne_minus_cons (n : Nat) (behind : List Char) :
    Nat.toDigits 10 n ++ rest ≠ '-' :: behind := by
  intro same
  obtain ⟨c, others, digits, digit⟩ := Decimal.exists_cons_toDigits n
  rw [digits, List.cons_append] at same
  rw [(List.cons.inj same).1] at digit
  exact absurd digit (by decide)

theorem takeNumber?_toDigits (ends : EndsValue rest) (n : Nat) :
    takeNumber? (Nat.toDigits 10 n ++ rest) =
        some (⟨false, Nat.toDigits 10 n, none, none⟩, rest) ∧
      takeNumber? ('-' :: (Nat.toDigits 10 n ++ rest)) =
        some (⟨true, Nat.toDigits 10 n, none, none⟩, rest) := by
  have whole := takeWhole?_toDigits (ends.apart Char.isDigit rfl rfl rfl) n
  have exponent := takeExponent?_of_endsValue ends
  have noPoint : ∀ behind, rest = '.' :: behind → False := by
    rintro behind rfl
    exact absurd (ends '.' rfl) (by decide)
  constructor
  · unfold takeNumber?
    split
    rename_i negative behind sign
    split at sign
    · rename_i same
      exact absurd same (toDigits_ne_minus_cons n _)
    · obtain ⟨rfl, rfl⟩ := Prod.mk.inj sign
      simp [whole, exponent]
  · simp [takeNumber?, whole, exponent]

theorem value_toDigits {n : Nat} (fits : n ≤ maxUnsigned) :
    NumberText.value ⟨false, Nat.toDigits 10 n, none, none⟩ = .int n := by
  have digits := foldl_push (Nat.toDigits 10 n)
  rw [Decimal.natOfDigits_toDigits] at digits
  simp [NumberText.value, digits fits]

theorem value_minus_toDigits {n : Nat} (some : n ≠ 0) (fits : n ≤ Nat.pow 2 63) :
    NumberText.value ⟨true, Nat.toDigits 10 n, none, none⟩ = .int (-n) := by
  have digits := foldl_push (Nat.toDigits 10 n)
  rw [Decimal.natOfDigits_toDigits] at digits
  have within : n ≤ maxUnsigned := fits.trans (by decide)
  have below : ¬ Nat.pow 2 63 < n := by omega
  simp [NumberText.value, digits within, some, below]

/-! ### Values -/

mutual

/-- Whether a document can hold the value exactly. -/
def isExact : Json → Bool
  | .float _ => false
  | .unreadable => false
  | .int n => -(Int.pow 2 63) ≤ n && n ≤ maxUnsigned
  | .array items => isExactItems items
  | .object members => isExactMembers members
  | _ => true

def isExactItems : List Json → Bool
  | [] => true
  | j :: rest => isExact j && isExactItems rest

def isExactMembers : List (String × Json) → Bool
  | [] => true
  | (_, j) :: rest => isExact j && isExactMembers rest

end

/-- The text of a value, as characters. -/
def written (j : Json) : List Char := (compact j).toList

theorem skipSpace_cons {c : Char} (solid : isSpace c = false) (s : List Char) :
    skipSpace (c :: s) = c :: s :=
  List.dropWhile_cons_of_neg (by simp [solid])

/-- A character that passes a test is none of those that fail it. -/
theorem ne_of_passes {test : Char → Bool} {c : Char} (passes : test c = true) (d : Char)
    (fails : test d = false) : c ≠ d := by
  rintro rfl
  rw [passes] at fails
  cases fails

/-- The characters that a value other than a number can start with. -/
def opensValue (c : Char) : Bool :=
  c = '"' || c = '[' || c = '\x7b' || c = 'n' || c = 't' || c = 'f'

/-- A text that starts with something else is read as a number. -/
theorem takeValue?_of_other {c : Char} (solid : isSpace c = false) (other : opensValue c = false)
    (fuel : Nat) (s : List Char) :
    takeValue? (fuel + 1) (c :: s) =
      (takeNumber? (c :: s)).map fun (t, rest) => (t.value, rest) := by
  have apart : ∀ d, opensValue d = true → c ≠ d := fun d opens =>
    (ne_of_passes opens c other).symm
  have quote := apart '"' (by decide)
  have bracket := apart '[' (by decide)
  have brace := apart '\x7b' (by decide)
  have noLiteral : literalOf? (c :: s) = none := by
    unfold literalOf?
    split
    · rename_i same
      exact absurd (List.cons.inj same).1 (apart 'n' (by decide))
    · rename_i same
      exact absurd (List.cons.inj same).1 (apart 't' (by decide))
    · rename_i same
      exact absurd (List.cons.inj same).1 (apart 'f' (by decide))
    · rfl
  rw [takeValue?, skipSpace_cons solid]
  simp [quote, bracket, brace, noLiteral]

theorem written_string (s : String) :
    written (.string s) = '"' :: (s.toList.flatMap escapeChar ++ ['"']) := toList_stringText s

theorem takeValue?_string (s : String) (fuel : Nat) (rest : List Char) :
    takeValue? (fuel + 1) (written (.string s) ++ rest) = some (.string s, rest) := by
  rw [written_string, List.cons_append, List.append_assoc, List.singleton_append, takeValue?]
  simp [skipSpace, isSpace, takeString?_escape]

theorem written_int (n : Int) :
    written (.int n) =
      match n with
      | .ofNat n => Nat.toDigits 10 n
      | .negSucc n => '-' :: Nat.toDigits 10 (n + 1) := by
  rw [written, compact, scalarText]
  · cases n with
    | ofNat n => exact Nat.toList_repr
    | negSucc n => simp [toString, Int.repr]
  · exact nofun
  · exact nofun

theorem leads_of_isDigit {c : Char} (digit : c.isDigit = true) :
    isSpace c = false ∧ opensValue c = false := by
  have apart := ne_of_passes digit
  constructor
  · simp [isSpace, apart ' ' rfl, apart '\n' rfl, apart '\t' rfl, apart '\r' rfl]
  · simp [opensValue, apart '"' rfl, apart '[' rfl, apart '\x7b' rfl, apart 'n' rfl, apart 't' rfl,
      apart 'f' rfl]

theorem takeValue?_int {n : Int} (exact : isExact (.int n) = true) (fuel : Nat)
    (ends : EndsValue rest) :
    takeValue? (fuel + 1) (written (.int n) ++ rest) = some (.int n, rest) := by
  simp only [isExact, Bool.and_eq_true, decide_eq_true_eq] at exact
  obtain ⟨low, high⟩ := exact
  rw [written_int]
  cases n with
  | ofNat n =>
    have number := (takeNumber?_toDigits ends n).1
    have value := value_toDigits (n := n) (Int.ofNat_le.mp high)
    obtain ⟨c, others, digits, digit⟩ := Decimal.exists_cons_toDigits n
    obtain ⟨solid, other⟩ := leads_of_isDigit digit
    rw [digits] at number value
    simp only [digits, List.cons_append] at number ⊢
    simp only [takeValue?_of_other solid other, number, Option.map_some, value]
    rfl
  | negSucc n =>
    have number := (takeNumber?_toDigits ends (n + 1)).2
    have value := value_minus_toDigits (n := n + 1) n.succ_ne_zero (by
      have bound := Int.neg_le_neg low
      rw [Int.neg_neg] at bound
      exact Int.ofNat_le.mp bound)
    simp only [List.cons_append]
    rw [takeValue?_of_other (by decide) (by decide)]
    simp only [number, Option.map_some, value]
    rfl

/-! ### Arrays and objects -/

/-- The texts of items with commas between them, as characters. -/
def writtenItems (items : List Json) : List Char := (compactItems items).toList

/-- The texts of members with commas between them, as characters. -/
def writtenMembers (members : List (String × Json)) : List Char := (compactMembers members).toList

theorem written_array (items : List Json) :
    written (.array items) = '[' :: (writtenItems items ++ [']']) := by
  simp [written, writtenItems, compact]

theorem written_object (members : List (String × Json)) :
    written (.object members) = '\x7b' :: (writtenMembers members ++ ['\x7d']) := by
  simp [written, writtenMembers, compact]

theorem writtenItems_singleton (j : Json) : writtenItems [j] = written j := by
  rw [writtenItems, compactItems, written]

theorem writtenItems_cons (j next : Json) (others : List Json) :
    writtenItems (j :: next :: others) = written j ++ ',' :: writtenItems (next :: others) := by
  rw [writtenItems, compactItems, written]
  · simp [writtenItems]
  · exact nofun

/-- The text of a key and of what stands between it and its value. -/
def writtenKey (key : String) : List Char := '"' :: (key.toList.flatMap escapeChar ++ ['"', ':'])

theorem writtenMembers_singleton (key : String) (j : Json) :
    writtenMembers [(key, j)] = writtenKey key ++ written j := by
  simp [writtenMembers, compactMembers, writtenKey, written, toList_stringText]

theorem writtenMembers_cons (key : String) (j : Json) (next : String × Json)
    (others : List (String × Json)) :
    writtenMembers ((key, j) :: next :: others) =
      writtenKey key ++ written j ++ ',' :: writtenMembers (next :: others) := by
  rw [writtenMembers, compactMembers]
  · simp [writtenMembers, writtenKey, written, toList_stringText]
  · exact nofun

/-- The text of a value starts with no space and closes nothing. -/
theorem exists_cons_written {j : Json} (exact : isExact j = true) :
    ∃ c s, written j = c :: s ∧ isSpace c = false ∧ c ≠ ']' := by
  cases j with
  | null => exact ⟨'n', _, rfl, rfl, by decide⟩
  | bool b => cases b <;> exact ⟨_, _, rfl, rfl, by decide⟩
  | int n =>
    rw [written_int]
    cases n with
    | ofNat n =>
      obtain ⟨c, others, digits, digit⟩ := Decimal.exists_cons_toDigits n
      refine ⟨c, others, digits, (leads_of_isDigit digit).1, ?_⟩
      rintro rfl
      cases digit
    | negSucc n => exact ⟨'-', _, rfl, rfl, by decide⟩
  | float f => cases exact
  | string s => exact ⟨'"', _, written_string s, rfl, by decide⟩
  | unreadable => cases exact
  | array items => exact ⟨_, _, written_array items, rfl, by decide⟩
  | object members => exact ⟨_, _, written_object members, rfl, by decide⟩

theorem exists_cons_writtenItems {item : Json} {items : List Json}
    (exact : isExactItems (item :: items) = true) :
    ∃ c s, writtenItems (item :: items) = c :: s ∧ isSpace c = false ∧ c ≠ ']' := by
  rw [isExactItems, Bool.and_eq_true] at exact
  obtain ⟨c, s, first, open'⟩ := exists_cons_written exact.1
  cases items with
  | nil => exact ⟨c, s, (writtenItems_singleton item).trans first, open'⟩
  | cons next others => exact ⟨c, _, by rw [writtenItems_cons, first]; rfl, open'⟩

theorem exists_cons_writtenMembers (member : String × Json) (members : List (String × Json)) :
    ∃ s, writtenMembers (member :: members) = '"' :: s := by
  cases members with
  | nil => exact ⟨_, writtenMembers_singleton member.1 member.2⟩
  | cons next others => exact ⟨_, writtenMembers_cons member.1 member.2 next others⟩

/-- Whether a value is read off the front of any text that goes on behind it. -/
def ReadsBack (j : Json) : Prop :=
  isExact j = true → ∀ fuel rest, (written j).length ≤ fuel → EndsValue rest →
    takeValue? fuel (written j ++ rest) = some (j, rest)

/-- Whether items are read up to their bracket. -/
def ItemsReadBack (items : List Json) : Prop :=
  items ≠ [] → isExactItems items = true → ∀ fuel rest, (writtenItems items).length + 1 ≤ fuel →
    takeItems? fuel (writtenItems items ++ ']' :: rest) = some (items, rest)

/-- Whether members are read up to their brace. -/
def MembersReadBack (members : List (String × Json)) : Prop :=
  members ≠ [] → isExactMembers members = true →
    ∀ fuel rest, (writtenMembers members).length + 1 ≤ fuel →
      takeMembers? fuel (writtenMembers members ++ '\x7d' :: rest) = some (some members, rest)

/-- A value needs to be looked at only where there is fuel, for its text is not empty. -/
theorem readsBack_of_succ {j : Json}
    (read : isExact j = true → ∀ fuel rest, (written j).length ≤ fuel + 1 → EndsValue rest →
      takeValue? (fuel + 1) (written j ++ rest) = some (j, rest)) : ReadsBack j := by
  intro exact fuel rest enough ends
  obtain ⟨c, s, first, _⟩ := exists_cons_written exact
  cases fuel with
  | zero => rw [first] at enough; exact absurd enough (Nat.not_succ_le_zero _)
  | succ fuel => exact read exact fuel rest enough ends

theorem readsBack_array {items : List Json} (read : ItemsReadBack items) :
    ReadsBack (.array items) := by
  refine readsBack_of_succ fun exact fuel rest enough _ => ?_
  cases items with
  | nil => rfl
  | cons item items =>
    obtain ⟨c, s, first, solid, other⟩ := exists_cons_writtenItems exact
    rw [written_array, List.length_cons, List.length_append] at enough
    have inside := read (List.cons_ne_nil _ _) exact fuel rest (Nat.le_of_succ_le_succ enough)
    have text : written (.array (item :: items)) ++ rest =
        '[' :: (writtenItems (item :: items) ++ ']' :: rest) := by
      simp [written_array]
    rw [text, takeValue?, skipSpace_cons (by decide)]
    rw [first, List.cons_append] at inside ⊢
    simp [skipSpace_cons solid, other, inside]

theorem readsBack_object {members : List (String × Json)} (read : MembersReadBack members) :
    ReadsBack (.object members) := by
  refine readsBack_of_succ fun exact fuel rest enough _ => ?_
  cases members with
  | nil => rfl
  | cons member members =>
    obtain ⟨s, first⟩ := exists_cons_writtenMembers member members
    rw [written_object, List.length_cons, List.length_append] at enough
    have inside := read (List.cons_ne_nil _ _) exact fuel rest (Nat.le_of_succ_le_succ enough)
    have text : written (.object (member :: members)) ++ rest =
        '\x7b' :: (writtenMembers (member :: members) ++ '\x7d' :: rest) := by
      simp [written_object]
    rw [text, takeValue?, skipSpace_cons (by decide)]
    rw [first, List.cons_append] at inside ⊢
    simp [skipSpace_cons (c := '"') (by decide), inside]

theorem itemsReadBack_cons {j : Json} {items : List Json} (value : ReadsBack j)
    (later : ItemsReadBack items) : ItemsReadBack (j :: items) := by
  intro _ exact fuel rest enough
  obtain ⟨fuel, rfl⟩ := Nat.exists_eq_add_of_le' (Nat.le_of_add_left_le enough)
  rw [isExactItems, Bool.and_eq_true] at exact
  cases items with
  | nil =>
    rw [writtenItems_singleton] at enough ⊢
    have item := value exact.1 fuel (']' :: rest) (Nat.le_of_succ_le_succ enough)
      (by simp [EndsValue])
    rw [takeItems?]
    simp [item, skipSpace, isSpace]
  | cons next others =>
    rw [writtenItems_cons, List.length_append, List.length_cons] at enough
    have item := value exact.1 fuel (',' :: (writtenItems (next :: others) ++ ']' :: rest))
      (by omega) (by simp [EndsValue])
    have items := later (List.cons_ne_nil _ _) exact.2 fuel rest (by omega)
    rw [writtenItems_cons, List.append_assoc, List.cons_append, takeItems?]
    simp [item, skipSpace, isSpace, items]

/-- A member is read up to what follows its value. -/
theorem takeMembers?_of_value {fuel : Nat} {key : String} {j : Json} {behind : List Char}
    (value : takeValue? fuel (written j ++ behind) = some (j, behind)) :
    takeMembers? (fuel + 1) (writtenKey key ++ (written j ++ behind)) =
      match skipSpace behind with
      | ',' :: rest =>
        (takeMembers? fuel rest).bind fun (members?, rest) =>
          some (members?.map ((key, j) :: ·), rest)
      | '\x7d' :: rest => some (some [(key, j)], rest)
      | _ => none := by
  have text : writtenKey key ++ (written j ++ behind) =
      '"' :: (key.toList.flatMap escapeChar ++ '"' :: ':' :: (written j ++ behind)) := by
    simp [writtenKey]
  rw [text, takeMembers?, skipSpace_cons (by decide)]
  simp only [Option.bind_eq_bind, takeString?_escape, Option.bind_some,
    skipSpace_cons (c := ':') (by decide), value]
  rfl

theorem membersReadBack_cons {member : String × Json} {members : List (String × Json)}
    (value : ReadsBack member.2) (later : MembersReadBack members) :
    MembersReadBack (member :: members) := by
  intro _ exact fuel rest enough
  obtain ⟨key, j⟩ := member
  change ReadsBack j at value
  obtain ⟨fuel, rfl⟩ := Nat.exists_eq_add_of_le' (Nat.le_of_add_left_le enough)
  rw [isExactMembers, Bool.and_eq_true] at exact
  cases members with
  | nil =>
    rw [writtenMembers_singleton, List.length_append] at enough
    have last := value exact.1 fuel ('\x7d' :: rest) (by omega) (by simp [EndsValue])
    rw [writtenMembers_singleton, List.append_assoc, takeMembers?_of_value last,
      skipSpace_cons (by decide)]
    rfl
  | cons next others =>
    rw [writtenMembers_cons, List.length_append, List.length_append, List.length_cons] at enough
    have first := value exact.1 fuel (',' :: (writtenMembers (next :: others) ++ '\x7d' :: rest))
      (by omega) (by simp [EndsValue])
    have members := later (List.cons_ne_nil _ _) exact.2 fuel rest (by omega)
    rw [writtenMembers_cons, List.append_assoc, List.append_assoc, List.cons_append,
      takeMembers?_of_value first, skipSpace_cons (by decide)]
    simp [members]

theorem readsBack (j : Json) : ReadsBack j := by
  refine @Json.rec ReadsBack ItemsReadBack MembersReadBack (fun member => ReadsBack member.2)
    ?null ?bool ?int ?float ?string ?unreadable (fun _ => readsBack_array)
    (fun _ => readsBack_object) ?noItems (fun _ _ => itemsReadBack_cons) ?noMembers
    (fun _ _ => membersReadBack_cons) (fun _ _ => id) j
  case null => exact readsBack_of_succ fun _ _ _ _ _ => rfl
  case bool => exact fun b => readsBack_of_succ fun _ _ _ _ _ => by cases b <;> rfl
  case int => exact fun n => readsBack_of_succ fun exact fuel _ _ => takeValue?_int exact fuel
  case float => exact fun f exact => nomatch exact
  case string =>
    exact fun s => readsBack_of_succ fun _ fuel rest _ _ => takeValue?_string s fuel rest
  case unreadable => exact fun exact => nomatch exact
  case noItems => exact fun filled => absurd rfl filled
  case noMembers => exact fun filled => absurd rfl filled

/-- A value that is written on one line is read back as it was. -/
theorem parse?_compact {j : Json} (exact : isExact j = true) : parse? (compact j) = some j := by
  have read := readsBack j exact ((written j).length + 1) [] (Nat.le_succ _) nofun
  rw [List.append_nil] at read
  have text : (compact j).toList = written j := rfl
  rw [parse?, parseChars?, text, read]
  rfl

/-! ### One line -/

theorem onOneLine_escapeChar (c : Char) : OnOneLine (escapeChar c) := by
  by_cases small : c.toNat < 32
  · exact forall_char_below 32 (by decide) c small
  by_cases quote : c = '"'
  · rw [quote]
    decide
  by_cases slash : c = '\\'
  · rw [slash]
    decide
  rw [escapeChar_of_plain small quote slash]
  exact .cons (Nat.le_of_not_lt small) onOneLine_nil

theorem onOneLine_escape (s : List Char) : OnOneLine (s.flatMap escapeChar) := by
  intro c listed
  obtain ⟨d, _, inside⟩ := List.mem_flatMap.mp listed
  exact onOneLine_escapeChar d c inside

theorem onOneLine_toDigits (n : Nat) : OnOneLine (Nat.toDigits 10 n) := by
  intro c listed
  have digit := Decimal.isDigit_of_mem_toDigits listed
  simp only [Char.isDigit, Bool.and_eq_true, decide_eq_true_eq] at digit
  exact Nat.le_trans (by decide) (UInt32.le_iff_toNat_le.mp digit.1)

theorem onOneLine_written (j : Json) : isExact j = true → OnOneLine (written j) := by
  refine @Json.rec (fun j => isExact j = true → OnOneLine (written j))
    (fun items => isExactItems items = true → OnOneLine (writtenItems items))
    (fun members => isExactMembers members = true → OnOneLine (writtenMembers members))
    (fun member => isExact member.2 = true → OnOneLine (written member.2))
    ?null ?bool ?int ?float ?string ?unreadable ?array ?object ?noItems ?items ?noMembers ?members
    (fun _ _ => id) j
  case null => exact fun _ => (by decide : OnOneLine "null".toList)
  case bool =>
    intro b _
    cases b
    · exact (by decide : OnOneLine "false".toList)
    · exact (by decide : OnOneLine "true".toList)
  case int =>
    intro n _
    rw [written_int]
    cases n with
    | ofNat n => exact onOneLine_toDigits n
    | negSucc n => exact .cons (by decide) (onOneLine_toDigits (n + 1))
  case float => exact fun f exact => nomatch exact
  case string =>
    intro s _
    rw [written_string]
    exact .cons (by decide) ((onOneLine_escape _).append (.cons (by decide) onOneLine_nil))
  case unreadable => exact fun exact => nomatch exact
  case array =>
    intro items inside exact
    rw [written_array]
    exact .cons (by decide) ((inside exact).append (.cons (by decide) onOneLine_nil))
  case object =>
    intro members inside exact
    rw [written_object]
    exact .cons (by decide) ((inside exact).append (.cons (by decide) onOneLine_nil))
  case noItems => exact fun _ => onOneLine_nil
  case items =>
    intro item items value later exact
    rw [isExactItems, Bool.and_eq_true] at exact
    cases items with
    | nil =>
      rw [writtenItems_singleton]
      exact value exact.1
    | cons next others =>
      rw [writtenItems_cons]
      exact (value exact.1).append (.cons (by decide) (later exact.2))
  case noMembers => exact fun _ => onOneLine_nil
  case members =>
    intro member members value later exact
    obtain ⟨key, j⟩ := member
    rw [isExactMembers, Bool.and_eq_true] at exact
    have name : OnOneLine (writtenKey key) :=
      .cons (by decide) ((onOneLine_escape _).append
        (.cons (by decide) (.cons (by decide) onOneLine_nil)))
    cases members with
    | nil =>
      rw [writtenMembers_singleton]
      exact name.append (value exact.1)
    | cons next others =>
      rw [writtenMembers_cons]
      exact (name.append (value exact.1)).append (.cons (by decide) (later exact.2))

end EventAlerts.Json
