/-
  EventAlerts/Json/Printer.lean
  =============================
  **Writing JSON** — on one line, or spread over lines with an indent of two spaces.
  Members are written in the order the value holds them.
-/
import EventAlerts.Decimal.Format
import EventAlerts.Json.Basic
import EventAlerts.Text.Quoted

namespace EventAlerts.Json

/-- A hexadecimal digit below 16. -/
def hexDigit (n : Nat) : Char := Nat.digitChar n

/-- How a character is written inside a string. -/
def escapeChar (c : Char) : List Char :=
  match c with
  | '"' => ['\\', '"']
  | '\\' => ['\\', '\\']
  | '\x08' => ['\\', 'b']
  | '\x0c' => ['\\', 'f']
  | '\n' => ['\\', 'n']
  | '\r' => ['\\', 'r']
  | '\t' => ['\\', 't']
  | c =>
    if c.toNat < 32 then ['\\', 'u', '0', '0', hexDigit (c.toNat / 16), hexDigit (c.toNat % 16)]
    else [c]

/-- A string with its quotes. -/
def stringText (s : String) : String :=
  String.ofList ('"' :: s.toList.flatMap escapeChar ++ ['"'])

/-- The text of a value that is no array and no object. -/
def scalarText : Json → String
  | .bool true => "true"
  | .bool false => "false"
  | .int n => toString n
  | .float f => if f.isFinite then Decimal.compactText f else "null"
  | .string s => stringText s
  | _ => "null"

mutual

/-- A value on one line, without spaces. -/
def compact : Json → String
  | .array items => "[" ++ compactItems items ++ "]"
  | .object members => "\x7b" ++ compactMembers members ++ "\x7d"
  | j => scalarText j

def compactItems : List Json → String
  | [] => ""
  | [j] => compact j
  | j :: rest => compact j ++ "," ++ compactItems rest

def compactMembers : List (String × Json) → String
  | [] => ""
  | [(k, j)] => stringText k ++ ":" ++ compact j
  | (k, j) :: rest => stringText k ++ ":" ++ compact j ++ "," ++ compactMembers rest

end

/-- A line break and an indent of `level` steps of two spaces. -/
def lineBreak (level : Nat) : String := String.ofList ('\n' :: List.replicate (2 * level) ' ')

mutual

/-- A value over several lines; empty arrays and objects stay closed. -/
def pretty (level : Nat) : Json → String
  | .array [] => "[]"
  | .array items =>
    "[" ++ prettyItems (level + 1) items ++ lineBreak level ++ "]"
  | .object [] => "\x7b\x7d"
  | .object members =>
    "\x7b" ++ prettyMembers (level + 1) members ++ lineBreak level ++ "\x7d"
  | j => scalarText j

def prettyItems (level : Nat) : List Json → String
  | [] => ""
  | [j] => lineBreak level ++ pretty level j
  | j :: rest => lineBreak level ++ pretty level j ++ "," ++ prettyItems level rest

def prettyMembers (level : Nat) : List (String × Json) → String
  | [] => ""
  | [(k, j)] => lineBreak level ++ stringText k ++ ": " ++ pretty level j
  | (k, j) :: rest =>
    lineBreak level ++ stringText k ++ ": " ++ pretty level j ++ "," ++ prettyMembers level rest

end

end EventAlerts.Json
