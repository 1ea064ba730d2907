/-
  EventAlerts/Toml/Lexeme.lean
  ============================
  **The small parts of TOML** — blanks, line ends, comments, quoted texts and keys.

  A reader takes the part from the start of a text and gives back the rest.  Control
  characters other than the tab may stand nowhere.
-/
import EventAlerts.Decimal.Reader

namespace EventAlerts.Toml

/-- A reader of a part: the part and the rest of the text, or failure. -/
abbrev Reader (α : Type) := List Char → Option (α × List Char)

/-! ### Blanks and line ends -/

def isBlank (c : Char) : Bool := c = ' ' || c = '\t'

def skipBlanks (s : List Char) : List Char := s.dropWhile isBlank

/-- A character that may stand in a comment. -/
def isPlain (c : Char) : Bool :=
  c = '\t' || (32 ≤ c.toNat && c.toNat ≤ 126) || 128 ≤ c.toNat

/-- What follows a line break. -/
def newline? : List Char → Option (List Char)
  | '\n' :: rest => some rest
  | '\r' :: '\n' :: rest => some rest
  | _ => none

/-- What follows a line break or is left of the last line, which is nothing. -/
def lineEnd? : List Char → Option (List Char)
  | [] => some []
  | s => newline? s

def skipComment : List Char → List Char
  | '#' :: rest => rest.dropWhile isPlain
  | s => s

/-- What follows the rest of a line that holds blanks and a comment only. -/
def emptyLine? (s : List Char) : Option (List Char) := lineEnd? (skipComment (skipBlanks s))

/-- What follows blanks and line breaks. -/
def skipLines : List Char → List Char
  | ' ' :: rest => skipLines rest
  | '\t' :: rest => skipLines rest
  | '\n' :: rest => skipLines rest
  | '\r' :: '\n' :: rest => skipLines rest
  | s => s

/-- What follows blanks, line breaks and comments; the counter bounds the comments. -/
def skipVoid : Nat → List Char → List Char
  | 0, s => s
  | bound + 1, s =>
    match skipLines s with
    | '#' :: rest =>
      let after := rest.dropWhile isPlain
      if after.isEmpty || (newline? after).isSome then skipVoid bound after else after
    | s => s

/-! ### Quoted texts -/

/-- The character that a number of hexadecimal digits writes. -/
def codePoint? (digits : Nat) (s : List Char) : Option (Char × List Char) :=
  if s.length < digits then none
  else
    match Decimal.readNat? 16 (s.take digits) with
    | some n => if n.isValidChar then some (Char.ofNat n, s.drop digits) else none
    | none => none

/-- The character that is written behind a backslash. -/
def escape? : Reader Char
  | 'b' :: rest => some ('\x08', rest)
  | 't' :: rest => some ('\t', rest)
  | 'n' :: rest => some ('\n', rest)
  | 'f' :: rest => some ('\x0c', rest)
  | 'r' :: rest => some ('\r', rest)
  | '"' :: rest => some ('"', rest)
  | '\\' :: rest => some ('\\', rest)
  | 'u' :: rest => codePoint? 4 rest
  | 'U' :: rest => codePoint? 8 rest
  | _ => none

/-- Puts characters in front of what a reader found. -/
def pushAll (cs : List Char) (found : Option (List Char × List Char)) :
    Option (List Char × List Char) :=
  found.map fun (text, rest) => (cs ++ text, rest)

/-- A text in double quotes, behind the first quote. -/
def basicBody : Nat → Reader (List Char)
  | 0, _ => none
  | _ + 1, [] => none
  | bound + 1, c :: rest =>
    if c = '"' then some ([], rest)
    else if c = '\\' then
      match escape? rest with
      | some (d, rest) => pushAll [d] (basicBody bound rest)
      | none => none
    else if isPlain c then pushAll [c] (basicBody bound rest)
    else none

/-- A text in single quotes, behind the first quote. -/
def literalBody : Reader (List Char)
  | [] => none
  | c :: rest =>
    if c = '\'' then some ([], rest)
    else if isPlain c then pushAll [c] (literalBody rest)
    else none

/-- A text over several lines, behind its opening quotes.  Three quotes close it; up to
    two more in front of them belong to the text.  With double quotes a backslash
    escapes a character, or takes away the line break and blanks behind it. -/
def longBody (quote : Char) : Nat → Reader (List Char)
  | 0, _ => none
  | _ + 1, [] => none
  | bound + 1, c :: rest =>
    if c = quote then
      let run := ((c :: rest).takeWhile (· = quote)).length
      if 3 ≤ run then
        let kept := min (run - 3) 2
        some (List.replicate kept quote, (c :: rest).drop (kept + 3))
      else pushAll (List.replicate run quote) (longBody quote bound ((c :: rest).drop run))
    else if c = '\\' && quote = '"' then
      if (newline? (skipBlanks rest)).isSome then longBody quote bound (skipLines rest)
      else
        match escape? rest with
        | some (d, rest) => pushAll [d] (longBody quote bound rest)
        | none => none
    else
      match newline? (c :: rest) with
      | some rest => pushAll ['\n'] (longBody quote bound rest)
      | none => if isPlain c then pushAll [c] (longBody quote bound rest) else none

/-- A line break directly behind the opening quotes is no part of the text. -/
def skipFirstBreak (s : List Char) : List Char := (newline? s).getD s

/-- A quoted text on one line. -/
def shortText? : Reader String := fun s =>
  let body :=
    match s with
    | '"' :: rest => basicBody (rest.length + 1) rest
    | '\'' :: rest => literalBody rest
    | _ => none
  body.map fun (text, rest) => (String.ofList text, rest)

/-- A quoted text. -/
def text? : Reader String := fun s =>
  let long (quote : Char) (rest : List Char) :=
    (longBody quote (rest.length + 1) (skipFirstBreak rest)).map fun (text, rest) =>
      (String.ofList text, rest)
  match s with
  | '"' :: '"' :: '"' :: rest => long '"' rest
  | '\'' :: '\'' :: '\'' :: rest => long '\'' rest
  | s => shortText? s

/-! ### Keys -/

def isKeyChar (c : Char) : Bool := c.isAlphanum || c = '_' || c = '-'

/-- One part of a key, with blanks around it. -/
def keyPart? : Reader String := fun s =>
  let s := skipBlanks s
  let part :=
    match s with
    | [] => none
    | c :: _ =>
      if c = '"' || c = '\'' then shortText? s
      else if isKeyChar c then
        some (String.ofList (s.takeWhile isKeyChar), s.dropWhile isKeyChar)
      else none
  part.map fun (name, rest) => (name, skipBlanks rest)

/-- The parts of a key behind the first, each after a point. -/
def moreKeyParts : Nat → Reader (List String)
  | bound + 1, '.' :: rest =>
    match keyPart? rest with
    | some (name, rest) =>
      (moreKeyParts bound rest).map fun (names, rest) => (name :: names, rest)
    | none => none
  | _, s => some ([], s)

/-- A key has fewer parts than this. -/
def maxKeyParts : Nat := 80

/-- A key: parts with points between them. -/
def key? : Reader (List String) := fun s => do
  let (name, rest) ← keyPart? s
  let (names, rest) ← moreKeyParts (rest.length + 1) rest
  if names.length + 1 < maxKeyParts then return (name :: names, rest) else none

end EventAlerts.Toml
