/-
  EventAlerts/Text/Quoted.lean
  ============================
  **Quoted texts** — a text between double quotes, as it is shown inside lists,
  maps and error messages.  The quote and the backslash are escaped, tab, newline,
  carriage return and the zero character have letters of their own, and every other
  character that cannot stand for itself is written by its code point.
-/
import EventAlerts.Unicode.Printable

namespace EventAlerts.Text

open EventAlerts.Unicode (isPrintable extendsGrapheme)

/-- The hexadecimal digits of a code point, in lower case. -/
def hexDigits (n : Nat) : List Char := Nat.toDigits 16 n

/-- How a character is written between double quotes. -/
def quoteChar (c : Char) : List Char :=
  match c with
  | '\x00' => ['\\', '0']
  | '\t' => ['\\', 't']
  | '\r' => ['\\', 'r']
  | '\n' => ['\\', 'n']
  | '"' => ['\\', '"']
  | '\\' => ['\\', '\\']
  | c =>
    if isPrintable c && !extendsGrapheme c then [c]
    else ['\\', 'u', '\x7b'] ++ hexDigits c.toNat ++ ['\x7d']

/-- A text between double quotes. -/
def quoted (s : String) : String :=
  String.ofList ('"' :: s.toList.flatMap quoteChar ++ ['"'])

end EventAlerts.Text
