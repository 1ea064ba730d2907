/-
  EventAlerts/Text/Basic.lean
  ===========================
  **Texts as character lists** — trimming, words, splitting and replacing.  The
  functions work on `List Char`, where they recurse on the data; the `String`
  versions at the end are what the rest of the library calls.

  Blank means the Unicode property `White_Space`.
-/
import EventAlerts.Unicode.Case

namespace EventAlerts.Text

open EventAlerts.Unicode (Ranges inRanges)

/-- The code points with the property `White_Space`. -/
def blankRanges : Ranges :=
  [(9, 13), (32, 32), (0x85, 0x85), (0xA0, 0xA0), (0x1680, 0x1680), (0x2000, 0x200A),
   (0x2028, 0x2029), (0x202F, 0x202F), (0x205F, 0x205F), (0x3000, 0x3000)]

def isBlank (c : Char) : Bool := inRanges blankRanges c

/-! ### Trimming -/

/-- Removes from the end every character that `p` accepts. -/
def dropEndWhile (p : Char → Bool) (s : List Char) : List Char :=
  (s.reverse.dropWhile p).reverse

/-- Removes from both ends every character that `p` accepts. -/
def trimWhere (p : Char → Bool) (s : List Char) : List Char :=
  dropEndWhile p (s.dropWhile p)

/-! ### Splitting -/

/-- Puts a character in front of the first piece. -/
def consHead (c : Char) : List (List Char) → List (List Char)
  | [] => [[c]]
  | piece :: pieces => (c :: piece) :: pieces

/-- The pieces between the characters that `p` accepts; never empty. -/
def splitWhere (p : Char → Bool) : List Char → List (List Char)
  | [] => [[]]
  | c :: rest => if p c then [] :: splitWhere p rest else consHead c (splitWhere p rest)

/-- The maximal runs of characters that are not blank. -/
def wordsOf (s : List Char) : List (List Char) :=
  (splitWhere isBlank s).filter fun w => !w.isEmpty

/-- The rest of `s` after the text `start`, if `s` starts with it. -/
def dropPrefix? : List Char → List Char → Option (List Char)
  | [], s => some s
  | _ :: _, [] => none
  | p :: ps, c :: rest => if p = c then dropPrefix? ps rest else none

/-- What stands before and after the first place where `sep` occurs. -/
def splitFirst? (sep : List Char) : List Char → Option (List Char × List Char)
  | [] => if sep.isEmpty then some ([], []) else none
  | c :: rest =>
    match dropPrefix? sep (c :: rest) with
    | some after => some ([], after)
    | none => (splitFirst? sep rest).map fun (before, after) => (c :: before, after)

/-- Whether `part` occurs in `s`. -/
def occursIn (part s : List Char) : Bool := (splitFirst? part s).isSome

/-- The pieces between the places where the text `sep` occurs, read from the left
    and at most `cuts` of them.  The counter `skip` runs over the rest of a separator
    already found.  A separator of no characters is handled by `splitOn`. -/
def splitFrom (sep : List Char) : Nat → Nat → List Char → List (List Char)
  | _, _, [] => [[]]
  | cuts, skip + 1, _ :: rest => splitFrom sep cuts skip rest
  | 0, 0, c :: rest => consHead c (splitFrom sep 0 0 rest)
  | cuts + 1, 0, c :: rest =>
    if sep.isPrefixOf (c :: rest) then [] :: splitFrom sep cuts (sep.length - 1) rest
    else consHead c (splitFrom sep (cuts + 1) 0 rest)

/-- One character a piece, cut at most `cuts` times, with an empty last piece. -/
def splitBetween : Nat → List Char → List (List Char)
  | 0, s => [s]
  | _ + 1, [] => [[]]
  | cuts + 1, c :: rest => [c] :: splitBetween cuts rest

/-- The pieces of `s` between occurrences of `sep`, cut at most `cuts` times.  The
    empty separator occurs at both ends and between any two characters. -/
def splitAtMost (cuts : Nat) (sep s : List Char) : List (List Char) :=
  if sep.isEmpty then
    match cuts with
    | 0 => [s]
    | cuts + 1 => [] :: splitBetween cuts s
  else splitFrom sep cuts 0 s

/-- The pieces of `s` between occurrences of `sep`. -/
def splitOn (sep s : List Char) : List (List Char) := splitAtMost (s.length + 2) sep s

/-! ### Replacing -/

/-- Replaces occurrences of `old`, read from the left.  The counter runs over the
    rest of an occurrence already replaced. -/
def replaceFrom (old new : List Char) : Nat → List Char → List Char
  | _, [] => []
  | skip + 1, _ :: rest => replaceFrom old new skip rest
  | 0, c :: rest =>
    if old.isPrefixOf (c :: rest) then new ++ replaceFrom old new (old.length - 1) rest
    else c :: replaceFrom old new 0 rest

/-- Replaces every occurrence of `old`.  The empty text occurs before every
    character and at the end. -/
def replaceAll (old new s : List Char) : List Char :=
  if old.isEmpty then new ++ s.flatMap fun c => c :: new
  else replaceFrom old new 0 s

/-! ### Texts -/

/-- The text without the blanks at its ends. -/
def trim (s : String) : String := String.ofList (trimWhere isBlank s.toList)

/-- Whether the text holds blanks only. -/
def isAllBlank (s : String) : Bool := s.toList.all isBlank

/-- The lower case form of a text. -/
def lower (s : String) : String := String.ofList (Unicode.lower s.toList)

/-- The upper case form of a text. -/
def upper (s : String) : String := String.ofList (Unicode.upper s.toList)

/-- The words of a text: its maximal runs without blanks. -/
def words (s : String) : List String := (wordsOf s.toList).map String.ofList

/-- Replaces every occurrence of one text by another. -/
def replace (s old new : String) : String :=
  String.ofList (replaceAll old.toList new.toList s.toList)

/-- Whether one text occurs in another. -/
def contains (s part : String) : Bool := occursIn part.toList s.toList

end EventAlerts.Text
