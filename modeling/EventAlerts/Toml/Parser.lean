/-
  EventAlerts/Toml/Parser.lean
  ============================
  **Reading TOML** — from the text of a document to its table.

  A document is a list of lines; values may go over several of them.  Arrays and
  tables on one line are nested less than `maxNesting` deep.
-/
import EventAlerts.Toml.Document
import EventAlerts.Toml.Number

namespace EventAlerts.Toml

/-! ### Values -/

/-- The items of an array behind its bracket, given how an item is read. -/
def arrayItems (item : Reader Toml) : Nat → Reader (List Toml)
  | 0, _ => none
  | bound + 1, s =>
    match skipVoid (s.length + 1) s with
    | ']' :: rest => some ([], rest)
    | s => do
      let (first, rest) ← item s
      match skipVoid (rest.length + 1) rest with
      | ',' :: rest =>
        let (others, rest) ← arrayItems item bound rest
        return (first :: others, rest)
      | ']' :: rest => return ([first], rest)
      | _ => none

/-- A key with its value. -/
def pair? (value : Reader Toml) : Reader (List String × Toml) := fun s => do
  let (path, rest) ← key? s
  let (v, rest) ← value (skipBlanks (← after? '=' rest))
  return ((path, v), rest)

/-- The pairs of a table on one line, given how a value is read. -/
def tablePairs (value : Reader Toml) : Nat → Reader (List (List String × Toml))
  | 0, _ => none
  | bound + 1, s => do
    let (first, rest) ← pair? value s
    match skipBlanks rest with
    | ',' :: rest =>
      let (others, rest) ← tablePairs value bound rest
      return (first :: others, rest)
    | '\x7d' :: rest => return ([first], rest)
    | _ => none

/-- A table on one line, behind its brace. -/
def inlineTable? (value : Reader Toml) : Reader Toml := fun s =>
  match skipBlanks s with
  | '\x7d' :: rest => some (.table [], rest)
  | s => do
    let (pairs, rest) ← tablePairs value (s.length + 1) s
    return (← ofPairs? pairs, rest)

/-- A value that holds no others. -/
def scalar? : Reader Toml
  | 't' :: 'r' :: 'u' :: 'e' :: rest => some (.bool true, rest)
  | 'f' :: 'a' :: 'l' :: 's' :: 'e' :: rest => some (.bool false, rest)
  | c :: rest =>
    if c = '"' || c = '\'' then (text? (c :: rest)).map fun (text, rest) => (.string text, rest)
    else number? (c :: rest)
  | [] => none

/-- Arrays and tables on one line are nested less deeply than this. -/
def maxNesting : Nat := 80

/-- A value that is nested less than a number of levels deep. -/
def value? : Nat → Reader Toml
  | 0 => fun _ => none
  | levels + 1 => fun s =>
    match s with
    | '[' :: rest => if levels = 0 then none else arrayItems (value? levels) (rest.length + 1) rest
        |>.map fun (items, rest) => (.array items, rest)
    | '\x7b' :: rest => if levels = 0 then none else inlineTable? (value? levels) rest
    | s => scalar? s

/-! ### Documents -/

/-- A heading. -/
def heading? : Reader Line
  | '[' :: '[' :: rest => do
    let (path, rest) ← key? rest
    return (.element path, ← after? ']' (← after? ']' rest))
  | '[' :: rest => do
    let (path, rest) ← key? rest
    return (.heading path, ← after? ']' rest)
  | _ => none

/-- A line with something on it. -/
def line? : Reader Line := fun s =>
  match s with
  | '[' :: _ => heading? s
  | _ => (pair? (value? maxNesting) s).map fun ((path, v), rest) => (.pair path v, rest)

/-- The lines of a document. -/
def lines? : Nat → List Char → Option (List Line)
  | 0, _ => none
  | bound + 1, s =>
    match skipVoid (s.length + 1) s with
    | [] => some []
    | s => do
      let (line, rest) ← line? s
      return line :: (← lines? bound (← emptyLine? rest))

/-- A text without the mark that can stand in front of a document. -/
def withoutMark : List Char → List Char
  | '\ufeff' :: rest => rest
  | s => s

/-- Reads a document. -/
def parse? (s : String) : Option Toml := do
  let text := withoutMark s.toList
  ofLines? (← lines? (text.length + 1) text)

end EventAlerts.Toml
