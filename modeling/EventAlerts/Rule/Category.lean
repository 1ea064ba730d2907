/-
  EventAlerts/Rule/Category.lean
  ==============================
  **Category names** — identifiers with dots between them.

  An identifier starts with a letter, `_` or `$` and goes on with letters, numbers,
  `_` and `$`.  `categoryName?` finds the name inside a text: it starts at the first
  character that an identifier can start with and is as long as possible.
-/
import EventAlerts.Unicode.Letter

namespace EventAlerts.Rule

/-- Whether an identifier can start with the character. -/
def startsName (c : Char) : Bool := Unicode.isLetter c || c = '_' || c = '$'

/-- Whether an identifier can go on with the character. -/
def continuesName (c : Char) : Bool := startsName c || Unicode.isNumber c

/-- Whether the text starts with an identifier. -/
def atName : List Char → Bool
  | [] => false
  | c :: _ => startsName c

/-- The longest category name that a text starts with, behind its first character.  A
    dot belongs to it if another identifier follows. -/
def takeName : List Char → List Char
  | [] => []
  | c :: rest =>
    if continuesName c then c :: takeName rest
    else if c = '.' && atName rest then c :: takeName rest
    else []

/-- The first and longest category name in a text. -/
def findName (s : List Char) : Option (List Char) :=
  match s.dropWhile fun c => !startsName c with
  | [] => none
  | found => some (takeName found)

/-- The first and longest category name in a text. -/
def categoryName? (s : String) : Option String := (findName s.toList).map String.ofList

end EventAlerts.Rule
