/-
  Quoted text, as messages and log fields show it.

  1. **Escapes** — a quote, a backslash and the usual controls take a backslash and one character;
     whatever else has no form of its own (no visible form, or one that joins the character before it) is
     written `\u{…}` with its code point in lower-case hexadecimal.
  2. **Texts** — `quoted` puts the escaped text between quotes, and `quotedList` lists such texts
     between brackets.
-/
import ThreatLedger.Text.Invisible
import ThreatLedger.Text.Combining

namespace ThreatLedger.Text

/-- A code point in lower-case hexadecimal, between braces. -/
def codePoint (c : Char) : List Char :=
  '\\' :: 'u' :: '\x7b' :: Nat.toDigits 16 c.toNat ++ ['\x7d']

/-- One character of a quoted text. -/
def escape (c : Char) : List Char :=
  match c with
  | '\x00' => ['\\', '0']
  | '\t' => ['\\', 't']
  | '\n' => ['\\', 'n']
  | '\r' => ['\\', 'r']
  | '"' => ['\\', '"']
  | '\\' => ['\\', '\\']
  | c => if isCombining c || isInvisible c then codePoint c else [c]

/-- A text between quotes. -/
def quoted (s : String) : String :=
  String.ofList ('"' :: s.toList.flatMap escape ++ ['"'])

/-- Quoted texts between brackets. -/
def quotedList (xs : List String) : String :=
  "[" ++ ", ".intercalate (xs.map quoted) ++ "]"

end ThreatLedger.Text
