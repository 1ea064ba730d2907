/-
  EventAlerts/Json/Parser.lean
  ============================
  **Reading JSON** — the strict grammar: no comments, no trailing commas, no
  characters below the space inside a string.  `Json.parse?` gives the document as it
  was written; what becomes of repeated keys is for the reader of the document.
-/
import EventAlerts.Json.Number

namespace EventAlerts.Json

/-- The characters that may stand between tokens. -/
def isSpace (c : Char) : Bool := c = ' ' || c = '\n' || c = '\t' || c = '\r'

def skipSpace (s : List Char) : List Char := s.dropWhile isSpace

/-! ### Strings -/

/-- A part of a string: a character, or a 16 bit unit written as an escape. -/
inductive Part
  | char (c : Char)
  | unit (n : Nat)

/-- The value of four hexadecimal digits. -/
def hexUnit? (a b c d : Char) : Option Nat := Decimal.readNat? 16 [a, b, c, d]

/-- What a one-letter escape stands for. -/
def shortEscape? (c : Char) : Option Char :=
  match c with
  | '"' => some '"'
  | '\\' => some '\\'
  | '/' => some '/'
  | 'b' => some '\x08'
  | 'f' => some '\x0c'
  | 'n' => some '\n'
  | 'r' => some '\r'
  | 't' => some '\t'
  | _ => none

/-- The parts of a string up to its closing quote, and the rest behind the quote. -/
def takeParts? : List Char → Option (List Part × List Char)
  | '"' :: rest => some ([], rest)
  | '\\' :: 'u' :: a :: b :: c :: d :: rest =>
    match hexUnit? a b c d with
    | some n => (takeParts? rest).map fun (parts, rest) => (.unit n :: parts, rest)
    | none => none
  | '\\' :: e :: rest =>
    match shortEscape? e with
    | some c => (takeParts? rest).map fun (parts, rest) => (.char c :: parts, rest)
    | none => none
  | c :: rest =>
    if c.toNat < 32 || c = '\\' then none
    else (takeParts? rest).map fun (parts, rest) => (.char c :: parts, rest)
  | [] => none

def isHighSurrogate (n : Nat) : Bool := 0xD800 ≤ n && n ≤ 0xDBFF

def isLowSurrogate (n : Nat) : Bool := 0xDC00 ≤ n && n ≤ 0xDFFF

/-- The characters of a string, unless half of a surrogate pair stands alone. -/
def charsOfParts? : List Part → Option (List Char)
  | [] => some []
  | .char c :: rest => (charsOfParts? rest).map (c :: ·)
  | .unit high :: .unit low :: rest =>
    if isHighSurrogate high then
      if isLowSurrogate low then
        (charsOfParts? rest).map
          (Char.ofNat (0x10000 + (high - 0xD800) * 0x400 + (low - 0xDC00)) :: ·)
      else none
    else if isLowSurrogate high then none
    else (charsOfParts? (.unit low :: rest)).map (Char.ofNat high :: ·)
  | .unit n :: rest =>
    if isHighSurrogate n || isLowSurrogate n then none
    else (charsOfParts? rest).map (Char.ofNat n :: ·)

/-- A key or string value whose opening quote has been read.  A string without a
    value is `none` inside. -/
def takeString? (s : List Char) : Option (Option String × List Char) :=
  (takeParts? s).map fun (parts, rest) => ((charsOfParts? parts).map String.ofList, rest)

/-! ### Values -/

/-- What a literal name stands for. -/
def literalOf? (s : List Char) : Option (Json × List Char) :=
  match s with
  | 'n' :: 'u' :: 'l' :: 'l' :: rest => some (.null, rest)
  | 't' :: 'r' :: 'u' :: 'e' :: rest => some (.bool true, rest)
  | 'f' :: 'a' :: 'l' :: 's' :: 'e' :: rest => some (.bool false, rest)
  | _ => none

mutual

/-- The value at the front of the text.  Every call reads a character, so the length
    of the text is fuel enough. -/
def takeValue? : Nat → List Char → Option (Json × List Char)
  | 0, _ => none
  | fuel + 1, s =>
    match skipSpace s with
    | '"' :: rest =>
      (takeString? rest).map fun (text?, rest) =>
        (match text? with | some text => .string text | none => .unreadable, rest)
    | '[' :: rest =>
      match skipSpace rest with
      | ']' :: rest => some (.array [], rest)
      | _ => (takeItems? fuel rest).map fun (items, rest) => (.array items, rest)
    | '\x7b' :: rest =>
      match skipSpace rest with
      | '\x7d' :: rest => some (.object [], rest)
      | _ =>
        (takeMembers? fuel rest).map fun (members?, rest) =>
          (match members? with | some members => .object members | none => .unreadable, rest)
    | s =>
      match literalOf? s with
      | some r => some r
      | none => (takeNumber? s).map fun (t, rest) => (t.value, rest)

/-- The items of an array that has at least one, up to its closing bracket. -/
def takeItems? : Nat → List Char → Option (List Json × List Char)
  | 0, _ => none
  | fuel + 1, s => do
    let (item, rest) ← takeValue? fuel s
    match skipSpace rest with
    | ',' :: rest =>
      let (items, rest) ← takeItems? fuel rest
      return (item :: items, rest)
    | ']' :: rest => return ([item], rest)
    | _ => none

/-- The members of an object that has at least one, up to its closing brace.  Members
    with a key that has no value are `none` inside. -/
def takeMembers? : Nat → List Char → Option (Option (List (String × Json)) × List Char)
  | 0, _ => none
  | fuel + 1, s => do
    match skipSpace s with
    | '"' :: rest =>
      let (key?, rest) ← takeString? rest
      let ':' :: rest := skipSpace rest | none
      let (value, rest) ← takeValue? fuel rest
      let member? := key?.map fun key => (key, value)
      match skipSpace rest with
      | ',' :: rest =>
        let (members?, rest) ← takeMembers? fuel rest
        return (member?.bind fun m => members?.map (m :: ·), rest)
      | '\x7d' :: rest => return (member?.map ([·]), rest)
      | _ => none
    | _ => none

end

/-- The document that a text holds. -/
def parseChars? (s : List Char) : Option Json :=
  match takeValue? (s.length + 1) s with
  | some (j, rest) => if (skipSpace rest).isEmpty then some j else none
  | none => none

/-- The document that a text holds, its members as they were written. -/
def parse? (s : String) : Option Json := parseChars? s.toList

end EventAlerts.Json
