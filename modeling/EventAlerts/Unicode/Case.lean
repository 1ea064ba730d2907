/-
  EventAlerts/Unicode/Case.lean
  =============================
  **Case rules** — the lower and upper case forms of characters and texts.

  A character has one lower case form except `İ`, whose form is `i` with a dot
  above, and an upper case form of up to three characters (`ß` gives `SS`).  In a
  text, `Σ` at the end of a word has the form `ς` and elsewhere `σ`: it ends a word
  when a cased character stands before it and none after it, the case-ignorable
  characters between left out.
-/
import EventAlerts.Unicode.CaseTable

namespace EventAlerts.Unicode

/-- Looks a code point up in rows of simple mappings. -/
def mapRow? (rows : List CaseRow) (n : Nat) : Option Nat :=
  (rows.find? fun (first, last, stride, _) =>
      first ≤ n && n ≤ last && (n - first) % stride == 0).map
    fun (first, _, _, target) => target + (n - first)

/-- The lower case form of a character, outside any text. -/
def lowerForm (c : Char) : List Char :=
  if c.toNat < 128 then [c.toLower]
  else if c = 'İ' then ['i', '\u0307']
  else match mapRow? lowerRows c.toNat with
    | some n => [Char.ofNat n]
    | none => [c]

/-- The upper case form of a character. -/
def upperForm (c : Char) : List Char :=
  if c.toNat < 128 then [c.toUpper]
  else match upperExpansions.find? fun e => e.1 == c.toNat with
    | some e => e.2.map Char.ofNat
    | none => match mapRow? upperRows c.toNat with
      | some n => [Char.ofNat n]
      | none => [c]

def isLowercase (c : Char) : Bool :=
  if c.toNat < 128 then c.isLower else inRanges lowercaseRanges c

def isUppercase (c : Char) : Bool :=
  if c.toNat < 128 then c.isUpper else inRanges uppercaseRanges c

/-- Whether the first character that is not case-ignorable is cased. -/
def cased? (s : List Char) : Bool :=
  match s.dropWhile (inRanges caseIgnorableRanges) with
  | c :: _ => inRanges casedRanges c
  | [] => false

/-- The form of `Σ` between the text before it, reversed, and the text after it. -/
def sigmaForm (before after : List Char) : Char :=
  if cased? before && !cased? after then 'ς' else 'σ'

/-- Lower case of a text whose reversed beginning is `before`. -/
def lowerAfter (before : List Char) : List Char → List Char
  | [] => []
  | c :: rest =>
    (if c = 'Σ' then [sigmaForm before rest] else lowerForm c) ++ lowerAfter (c :: before) rest

/-- The lower case form of a text. -/
def lower (s : List Char) : List Char := lowerAfter [] s

/-- The upper case form of a text. -/
def upper (s : List Char) : List Char := s.flatMap upperForm

end EventAlerts.Unicode
