/-
  EventAlerts/Proofs/Text/Bytes.lean
  ==================================
  **Lines as bytes** — a stream of bytes is cut at its line feeds.

  Every character of more than one byte is written with bytes from 128 on, so the byte of a
  line feed stands for a line feed only.  Texts without control characters are therefore not
  cut, and a stream in which a line feed ends each of them has these texts as its lines
  (`splitOn_bytes_join`).
-/
import Mathlib.Data.List.Basic
import Mathlib.Data.String.Basic

namespace EventAlerts.Text

/-- What holds of the characters with numbers below a bound can be checked number by number. -/
@[elab_as_elim]
theorem forall_char_below {p : Char → Prop} (bound : Nat) (all : ∀ n < bound, p (Char.ofNat n))
    (c : Char) (small : c.toNat < bound) : p c := by
  have here := all c.toNat small
  rwa [Char.ofNat_toNat] at here

/-- What holds of the ten digits. -/
@[elab_as_elim]
theorem forall_digit {p : Char → Prop}
    (all : ∀ n < 58, (Char.ofNat n).isDigit = true → p (Char.ofNat n)) (c : Char)
    (digit : c.isDigit = true) : p c := by
  have small : c.toNat < 58 := Nat.lt_succ_of_le (Char.isDigit_iff_toNat.mp digit).2
  have here := all c.toNat small
  rw [Char.ofNat_toNat] at here
  exact here digit

/-! ### Texts of one line -/

/-- Whether a text has no control characters, and so no line breaks. -/
def OnOneLine (s : List Char) : Prop := ∀ c ∈ s, 32 ≤ c.toNat

instance (s : List Char) : Decidable (OnOneLine s) := List.decidableBAll _ s

theorem OnOneLine.append {s t : List Char} (first : OnOneLine s) (second : OnOneLine t) :
    OnOneLine (s ++ t) :=
  List.forall_mem_append.mpr ⟨first, second⟩

theorem OnOneLine.cons {c : Char} {s : List Char} (large : 32 ≤ c.toNat) (others : OnOneLine s) :
    OnOneLine (c :: s) :=
  List.forall_mem_cons.mpr ⟨large, others⟩

theorem onOneLine_nil : OnOneLine [] := nofun

/-! ### Bytes -/

/-- The bytes of a text in UTF-8. -/
def bytes (s : String) : List UInt8 := s.toUTF8.data.toList

/-- The text that bytes stand for, if they are UTF-8. -/
def ofBytes? (bytes : List UInt8) : Option String := String.fromUTF8? ⟨bytes.toArray⟩

/-- The byte that ends a line. -/
def lineFeed : UInt8 := 10

theorem ofBytes?_bytes (s : String) : ofBytes? (bytes s) = some s :=
  dif_pos s.isValidUTF8

theorem bytes_eq_flatMap (s : String) : bytes s = s.toList.flatMap String.utf8EncodeChar := by
  conv => lhs; rw [← String.ofList_toList (s := s)]
  rw [bytes, String.toUTF8_eq_toByteArray, String.toByteArray_ofList, List.utf8Encode,
    List.data_toByteArray]

theorem bytes_append (s t : String) : bytes (s ++ t) = bytes s ++ bytes t := by
  rw [bytes_eq_flatMap, String.toList_append, List.flatMap_append, ← bytes_eq_flatMap,
    ← bytes_eq_flatMap]

theorem bytes_join (texts : List String) : bytes (String.join texts) = texts.flatMap bytes := by
  induction texts with
  | nil => rfl
  | cons s texts ih => rw [String.join_cons, bytes_append, ih, List.flatMap_cons]

theorem lineFeed_not_mem_utf8EncodeChar {c : Char} (solid : 32 ≤ c.toNat) :
    lineFeed ∉ String.utf8EncodeChar c := by
  have apart : ∀ n : Nat, n % 256 ≠ 10 → lineFeed ≠ UInt8.ofNat n := by
    intro n other same
    exact other (congrArg UInt8.toNat same).symm
  have whole : c.val.toNat = c.toNat := rfl
  simp only [String.utf8EncodeChar, whole]
  split
  · simpa only [List.mem_singleton] using apart _ (by omega)
  -- the first byte of several is 192 or more, each of the others 128 or more
  split
  · simp only [List.mem_cons, List.not_mem_nil, or_false, not_or]
    exact ⟨apart _ (by omega), apart _ (by omega)⟩
  split
  · simp only [List.mem_cons, List.not_mem_nil, or_false, not_or]
    exact ⟨apart _ (by omega), apart _ (by omega), apart _ (by omega)⟩
  · simp only [List.mem_cons, List.not_mem_nil, or_false, not_or]
    exact ⟨apart _ (by omega), apart _ (by omega), apart _ (by omega), apart _ (by omega)⟩

theorem lineFeed_not_mem_bytes {s : String} (oneLine : OnOneLine s.toList) :
    lineFeed ∉ bytes s := by
  rw [bytes_eq_flatMap]
  intro listed
  obtain ⟨c, inside, listed⟩ := List.mem_flatMap.mp listed
  exact lineFeed_not_mem_utf8EncodeChar (oneLine c inside) listed

/-- Texts with a line feed behind each are the lines of a stream, up to its end. -/
theorem splitOn_bytes_join {texts : List String} (oneLine : ∀ s ∈ texts, OnOneLine s.toList) :
    (bytes (String.join (texts.map (· ++ "\n")))).splitOn lineFeed = texts.map bytes ++ [[]] := by
  rw [bytes_join]
  induction texts with
  | nil => rfl
  | cons s texts ih =>
    rw [List.forall_mem_cons] at oneLine
    have ends : bytes (s ++ "\n") = bytes s ++ [lineFeed] := bytes_append s "\n"
    rw [List.map_cons, List.flatMap_cons, ends, List.append_assoc, List.singleton_append,
      List.splitOn_append_cons_self_of_not_mem (lineFeed_not_mem_bytes oneLine.1), ih oneLine.2]
    rfl

end EventAlerts.Text
