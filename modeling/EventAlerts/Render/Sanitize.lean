/-
  EventAlerts/Render/Sanitize.lean
  ================================
  **Making texts safe** — escaping marks, dropping the host's color codes, and taking
  the effect from mentions of everyone.

  A color code is a section sign and one character.  Codes are dropped in one pass
  from the left; a code that only comes about by dropping another one stays.
-/
import EventAlerts.Text.Basic

namespace EventAlerts.Render

/-! ### Escaping -/

/-- The characters that mean something in a message's markup. -/
def marks : List Char := ['\\', '*', '_', '~', '\x60', '|', '>']

/-- A character with a backslash in front if it is a mark. -/
def escapeMark (c : Char) : List Char := if marks.contains c then ['\\', c] else [c]

/-- The text with a backslash in front of every mark. -/
def escapeMarks (s : List Char) : List Char := s.flatMap escapeMark

def escapeMarkdown (s : String) : String := String.ofList (escapeMarks s.toList)

/-! ### Color codes -/

/-- The sign that a color code starts with. -/
def sectionSign : Char := '\u00a7'

/-- Whether the character behind a section sign makes it a color code: a digit, a
    letter from a to f, from k to o, r or x, in either case.  The Kelvin sign counts
    as a letter k. -/
def endsCode (c : Char) : Bool :=
  let l := c.toLower
  c.isDigit || ('a' ≤ l && l ≤ 'f') || ('k' ≤ l && l ≤ 'o') || l = 'r' || l = 'x' || c = '\u212a'

/-- The text without its color codes. -/
def dropCodes : List Char → List Char
  | [] => []
  | [c] => [c]
  | c :: d :: rest =>
    if c = sectionSign && endsCode d then dropCodes rest else c :: dropCodes (d :: rest)

def stripColorCodes (s : String) : String := String.ofList (dropCodes s.toList)

/-! ### Mentions -/

/-- A space without width, which takes a mention apart. -/
def divider : Char := '\u200b'

/-- The words that mention everyone behind an at sign. -/
def massMentions : List String := ["everyone", "here"]

/-- Puts a divider into every mention with the word. -/
def defuse (text word : String) : String :=
  Text.replace text ("@" ++ word) (String.ofList ['@', divider] ++ word)

/-- The text without color codes and with every mention of everyone taken apart. -/
def sanitize (s : String) : String :=
  let stripped := stripColorCodes s
  if stripped.toList.contains '@' then massMentions.foldl defuse stripped else stripped

end EventAlerts.Render
