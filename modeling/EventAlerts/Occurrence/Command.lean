/-
  EventAlerts/Occurrence/Command.lean
  ===================================
  **Commands** — where a command comes from, and its normal form.

  The first word of a command may carry a namespace, which ends at the word's last
  colon and is dropped.  What follows the first space is kept as it is and cut at
  every space into the arguments; empty arguments at the end are dropped.
-/
import EventAlerts.Text.Basic

namespace EventAlerts

/-- The command that an occurrence carries. -/
inductive CommandSource
  /-- What a player typed, with its slash. -/
  | player (message : String)
  /-- What the console ran, without a slash. -/
  | server (sender command : String)
  deriving Repr, DecidableEq

/-- A command in its normal form. -/
structure Command where
  text : String
  args : List String := []
  deriving Repr, DecidableEq

namespace Command

/-- What stands behind the last `mark`, or everything. -/
def afterLast (mark : Char) (s : List Char) : List Char :=
  (s.reverse.takeWhile (· ≠ mark)).reverse

/-- The pieces between spaces, less the empty ones at the end. -/
def argsOf (s : List Char) : List (List Char) :=
  ((Text.splitWhere (· = ' ') s).reverse.dropWhile List.isEmpty).reverse

/-- The normal form of a command. -/
def normalize (text : String) : Command :=
  match Text.splitFirst? [' '] text.toList with
  | some (word, rest) =>
    { text := String.ofList (afterLast ':' word ++ ' ' :: rest)
      args := (argsOf rest).map String.ofList }
  | none => { text := String.ofList (afterLast ':' text.toList) }

/-- The normal form of a command that may be blank, in which case it is kept. -/
def ofText (text : String) : Command :=
  if Text.isAllBlank text then { text := text } else normalize text

end Command

end EventAlerts
