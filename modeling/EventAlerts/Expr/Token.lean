/-
  EventAlerts/Expr/Token.lean
  ===========================
  **Tokens** — names, texts, numbers and symbols.

  Names are made of ASCII letters, digits and `_`.  A number may hold `_` between its
  digits; it is floating point when it has a point or an exponent.  A point with a
  name behind it is no part of a number.  Inside a text a backslash starts an escape;
  one with no meaning stays in the text.  What is no token ends the tokens of a text
  with the mark `unreadable`.
-/
import EventAlerts.Decimal.Reader

namespace EventAlerts.Expr

inductive Symbol
  | plus | minus | times | power | slash | slashSlash | percent | tilde | pipe
  | dot | comma | colon | assign
  | equal | notEqual | less | lessEqual | greater | greaterEqual
  | parenOpen | parenClose | bracketOpen | bracketClose | braceOpen | braceClose
  deriving Repr, DecidableEq

inductive Token
  | name (s : String)
  | text (s : String)
  | int (n : Nat)
  | float (f : Float)
  | symbol (s : Symbol)
  | unreadable
  deriving Repr, BEq

/-! ### Texts -/

/-- A part of a text literal: a character, or a 16 bit unit written as an escape. -/
inductive TextPart
  | char (c : Char)
  | unit (n : Nat)

/-- The body of a text literal up to the closing quote, and the rest behind it. -/
def takeQuoted? (quote : Char) : List Char → Option (List Char × List Char)
  | [] => none
  | '\\' :: c :: rest => (takeQuoted? quote rest).map fun (body, rest) => ('\\' :: c :: body, rest)
  | c :: rest =>
    if c = quote then some ([], rest)
    else if c = '\\' then none
    else (takeQuoted? quote rest).map fun (body, rest) => (c :: body, rest)

def isOctal (c : Char) : Bool := '0' ≤ c && c ≤ '7'

/-- What an escape of one letter stands for. -/
def letterEscape? (c : Char) : Option Char :=
  match c with
  | '"' => some '"'
  | '\'' => some '\''
  | '\\' => some '\\'
  | '/' => some '/'
  | 'b' => some '\x08'
  | 'f' => some '\x0c'
  | 'n' => some '\n'
  | 'r' => some '\r'
  | 't' => some '\t'
  | _ => none

/-- The character of one byte that up to three octal digits stand for. -/
def octalChar? (digits : List Char) : Option TextPart :=
  ((Decimal.readNat? 8 digits).filter (· < 256)).map fun n => .char (Char.ofNat n)

/-- Adds a part in front of the parts behind it. -/
def consPart (part : TextPart) (parts? : Option (List TextPart)) : Option (List TextPart) :=
  parts?.map (part :: ·)

/-- Adds a part that may not be readable in front of the parts behind it. -/
def consPart? (part? : Option TextPart) (parts? : Option (List TextPart)) :
    Option (List TextPart) :=
  part?.bind fun part => consPart part parts?

/-- The parts of the body of a text literal. -/
def textParts? : List Char → Option (List TextPart)
  | [] => some []
  | '\\' :: 'u' :: a :: b :: c :: d :: rest =>
    match Decimal.readUnsigned? 16 [a, b, c, d] with
    | some n => consPart (.unit n) (textParts? rest)
    | none => none
  | '\\' :: 'x' :: a :: b :: rest =>
    match Decimal.readUnsigned? 16 [a, b] with
    | some n => consPart (.char (Char.ofNat n)) (textParts? rest)
    | none => none
  | '\\' :: 'u' :: _ => none
  | '\\' :: 'x' :: _ => none
  | '\\' :: a :: b :: c :: rest =>
    if isOctal a && isOctal b && isOctal c then
      consPart? (octalChar? [a, b, c]) (textParts? rest)
    else if isOctal a && isOctal b then
      consPart? (octalChar? [a, b]) (textParts? (c :: rest))
    else if isOctal a then
      consPart? (octalChar? [a]) (textParts? (b :: c :: rest))
    else match letterEscape? a with
      | some e => consPart (.char e) (textParts? (b :: c :: rest))
      | none => consPart (.char '\\') (consPart (.char a) (textParts? (b :: c :: rest)))
  | ['\\', a, b] =>
    if isOctal a && isOctal b then consPart? (octalChar? [a, b]) (some [])
    else if isOctal a then consPart? (octalChar? [a]) (textParts? [b])
    else match letterEscape? a with
      | some e => consPart (.char e) (textParts? [b])
      | none => consPart (.char '\\') (consPart (.char a) (textParts? [b]))
  | ['\\', a] =>
    if isOctal a then consPart? (octalChar? [a]) (some [])
    else match letterEscape? a with
      | some e => some [.char e]
      | none => some [.char '\\', .char a]
  | c :: rest => consPart (.char c) (textParts? rest)

/-- The characters of a text literal; a surrogate needs its other half behind it. -/
def joinParts? : List TextPart → Option (List Char)
  | [] => some []
  | .char c :: rest => (joinParts? rest).map (c :: ·)
  | .unit high :: rest =>
    if 0xD800 ≤ high && high ≤ 0xDBFF then
      match rest with
      | .unit low :: rest =>
        if 0xDC00 ≤ low && low ≤ 0xDFFF then
          (joinParts? rest).map
            (Char.ofNat (0x10000 + (high - 0xD800) * 0x400 + (low - 0xDC00)) :: ·)
        else none
      | _ => none
    else if 0xDC00 ≤ high && high ≤ 0xDFFF then none
    else (joinParts? rest).map (Char.ofNat high :: ·)

/-- The text token at the front, its opening quote already read. -/
def takeText? (quote : Char) (s : List Char) : Option (Token × List Char) := do
  let (body, rest) ← takeQuoted? quote s
  let chars ← joinParts? (← textParts? body)
  return (.text (String.ofList chars), rest)

/-! ### Names -/

def isNameStart (c : Char) : Bool := c.isAlpha || c = '_'

def isNamePart (c : Char) : Bool := c.isAlphanum || c = '_'

/-! ### Numbers -/

/-- Whether a text starts with the exponent of a number. -/
def startsExponent (s : List Char) : Bool :=
  match s with
  | e :: c :: _ => (e = 'e' || e = 'E') && (c = '+' || c = '-' || c.isDigit)
  | _ => false

/-- Whether a text starts with a name that is no exponent. -/
def startsName (s : List Char) : Bool :=
  s.head?.any isNameStart && !startsExponent s

/-- How far the text of a number has been read. -/
inductive NumberState
  | whole
  | radix (base : Nat)
  | fraction
  | exponent
  | exponentDigits
  deriving DecidableEq

/-- The state after a further character of a number, if it continues the number with
    the rest behind it. -/
def NumberState.next? (state : NumberState) (c : Char) (rest : List Char) : Option NumberState :=
  match state with
  | .whole =>
    if c = '.' then (if startsName rest then none else some .fraction)
    else if c = 'e' || c = 'E' then some .exponent
    else if c.isDigit || c = '_' then some .whole
    else none
  | .radix base =>
    if c.isDigit || c = '_' then some (.radix base)
    else if base = 16 && (Decimal.digitValue? 16 c).isSome then some (.radix base)
    else none
  | .fraction =>
    if c = 'e' || c = 'E' then some .exponent
    else if c.isDigit || c = '_' then some .fraction
    else none
  | .exponent =>
    if c = '+' || c = '-' || c.isDigit then some .exponentDigits
    else if c = '_' then some .exponent
    else none
  | .exponentDigits => if c.isDigit || c = '_' then some .exponentDigits else none

/-- The characters that continue a number, and the state they end in. -/
def takeNumberChars (state : NumberState) : List Char → NumberState × List Char × List Char
  | [] => (state, [], [])
  | c :: rest =>
    match state.next? c rest with
    | some next =>
      let (final, taken, rest) := takeNumberChars next rest
      (final, c :: taken, rest)
    | none => (state, [], c :: rest)

/-- The largest whole number a token can hold. -/
def maxWhole : Nat := Nat.pow 2 128 - 1

/-- The token of a number text. -/
def numberToken? (state : NumberState) (chars : List Char) : Option Token :=
  if chars.getLast? = some '_' then none
  else
    let digits := chars.filter (· ≠ '_')
    let ofBase (base : Nat) : Option Token :=
      ((Decimal.readNat? base digits).filter (· ≤ maxWhole)).map .int
    match state with
    | .whole => ofBase 10
    | .radix base => ofBase base
    | _ => (Decimal.readMagnitude? digits).map .float

/-- The base that the first two characters of a number announce. -/
def radixOf? (s : List Char) : Option (Nat × List Char) :=
  match s with
  | '0' :: r :: rest =>
    if r = 'b' || r = 'B' then some (2, rest)
    else if r = 'o' || r = 'O' then some (8, rest)
    else if r = 'x' || r = 'X' then some (16, rest)
    else none
  | _ => none

/-- The number token at the front, which starts with a digit. -/
def takeNumberToken? (s : List Char) : Option (Token × List Char) :=
  let (state, chars, rest) :=
    match radixOf? s with
    | some (base, rest) => takeNumberChars (.radix base) rest
    | none => takeNumberChars .whole s
  (numberToken? state chars).map fun t => (t, rest)

/-! ### Tokens -/

/-- The blanks that may stand between tokens. -/
def isTokenSpace (c : Char) : Bool :=
  c = ' ' || c = '\t' || c = '\n' || c = '\x0c' || c = '\r'

/-- The symbol of two characters. -/
def longSymbol? (a b : Char) : Option Symbol :=
  match a, b with
  | '/', '/' => some .slashSlash
  | '*', '*' => some .power
  | '=', '=' => some .equal
  | '!', '=' => some .notEqual
  | '>', '=' => some .greaterEqual
  | '<', '=' => some .lessEqual
  | _, _ => none

/-- The symbol of one character. -/
def shortSymbol? (c : Char) : Option Symbol :=
  match c with
  | '+' => some .plus
  | '-' => some .minus
  | '*' => some .times
  | '/' => some .slash
  | '%' => some .percent
  | '~' => some .tilde
  | '|' => some .pipe
  | '.' => some .dot
  | ',' => some .comma
  | ':' => some .colon
  | '=' => some .assign
  | '<' => some .less
  | '>' => some .greater
  | '(' => some .parenOpen
  | ')' => some .parenClose
  | '[' => some .bracketOpen
  | ']' => some .bracketClose
  | '\x7b' => some .braceOpen
  | '\x7d' => some .braceClose
  | _ => none

/-- The symbol at the front, the longer one first. -/
def takeSymbol? (s : List Char) : Option (Symbol × List Char) :=
  match s with
  | a :: b :: rest =>
    match longSymbol? a b with
    | some symbol => some (symbol, rest)
    | none => (shortSymbol? a).map fun symbol => (symbol, b :: rest)
  | [a] => (shortSymbol? a).map fun symbol => (symbol, [])
  | [] => none

/-- The token at the front of a text that does not start with a blank. -/
def takeToken? (s : List Char) : Option (Token × List Char) :=
  match takeSymbol? s with
  | some (symbol, rest) => some (.symbol symbol, rest)
  | none =>
    match s with
    | [] => none
    | c :: rest =>
      if c = '\'' || c = '"' then takeText? c rest
      else if c.isDigit then takeNumberToken? s
      else if isNameStart c then
        some (.name (String.ofList (s.takeWhile isNamePart)), s.dropWhile isNamePart)
      else none

/-- The tokens of a text.  A token has at least one character, so the length of the
    text is fuel enough. -/
def tokensFrom : Nat → List Char → List Token
  | 0, _ => [.unreadable]
  | fuel + 1, s =>
    match s.dropWhile isTokenSpace with
    | [] => []
    | c :: rest =>
      match takeToken? (c :: rest) with
      | some (token, rest) => token :: tokensFrom fuel rest
      | none => [.unreadable]

/-- The tokens of an expression. -/
def tokens (s : String) : List Token := tokensFrom (s.toList.length + 1) s.toList

end EventAlerts.Expr
