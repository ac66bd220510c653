/-
  Writing JSON.

  1. **Strings** — `quotedString` puts a text between quotes and escapes quotes, backslashes and control
     characters.  Every byte that needs an escape is an ASCII character, so it works byte by byte.
  2. **Values** — `Value.print` writes a value in a `Style`: `compact` writes no blanks at all, `pretty`
     gives each item of a container a line of its own, two spaces deeper.
-/
import ThreatLedger.Bytes
import ThreatLedger.Text.Ascii
import ThreatLedger.Json.Value

namespace ThreatLedger.Json

/-! ## Strings -/

/-- The byte of a hexadecimal digit, lower case. -/
def hexByte (n : Nat) : UInt8 := ascii (Bytes.hexDigit n)

/-- One byte of a string. -/
def escapeByte (b : UInt8) : Bytes :=
  if b = ascii '"' then [ascii '\\', ascii '"']
  else if b = ascii '\\' then [ascii '\\', ascii '\\']
  else if 0x20 ≤ b then [b]
  else if b = 0x08 then [ascii '\\', ascii 'b']
  else if b = 0x09 then [ascii '\\', ascii 't']
  else if b = 0x0a then [ascii '\\', ascii 'n']
  else if b = 0x0c then [ascii '\\', ascii 'f']
  else if b = 0x0d then [ascii '\\', ascii 'r']
  else [ascii '\\', ascii 'u', ascii '0', ascii '0', hexByte (b.toNat / 16), hexByte (b.toNat % 16)]

/-- A text between quotes. -/
def quotedString (s : String) : Bytes :=
  ascii '"' :: ((Bytes.ofText s).flatMap escapeByte ++ [ascii '"'])

/-! ## Values -/

/-- What is written between the parts of a container: the break before an item at a depth, and what
follows a name. -/
structure Style where
  lineBreak : Nat → Bytes
  colon : Bytes

/-- No blanks. -/
def compact : Style := ⟨fun _ => [], [ascii ':']⟩

/-- A line for each item, two spaces a level. -/
def pretty : Style :=
  ⟨fun depth => ascii '\n' :: List.replicate (2 * depth) (ascii ' '), [ascii ':', ascii ' ']⟩

/-- The literal `null`. -/
def nullLiteral : Bytes := [ascii 'n', ascii 'u', ascii 'l', ascii 'l']

/-- The literal `true`. -/
def trueLiteral : Bytes := [ascii 't', ascii 'r', ascii 'u', ascii 'e']

/-- The literal `false`. -/
def falseLiteral : Bytes := [ascii 'f', ascii 'a', ascii 'l', ascii 's', ascii 'e']

mutual

/-- A value inside `depth` containers. -/
def Value.print (style : Style) (depth : Nat) : Value → Bytes
  | .null => nullLiteral
  | .bool b => if b then trueLiteral else falseLiteral
  | .number n => Bytes.ofText n.text
  | .string s => quotedString s
  | .array [] => [ascii '[', ascii ']']
  | .array (v :: vs) =>
    ascii '[' :: (style.lineBreak (depth + 1) ++ v.print style (depth + 1)
      ++ printItems style (depth + 1) vs ++ style.lineBreak depth ++ [ascii ']'])
  | .object [] => [ascii '{', ascii '}']
  | .object ((name, v) :: ms) =>
    ascii '{' :: (style.lineBreak (depth + 1) ++ quotedString name ++ style.colon
      ++ v.print style (depth + 1) ++ printMembers style (depth + 1) ms ++ style.lineBreak depth
      ++ [ascii '}'])

/-- The items of a list after the first, each behind a comma. -/
def printItems (style : Style) (depth : Nat) : List Value → Bytes
  | [] => []
  | v :: vs =>
    ascii ',' :: (style.lineBreak depth ++ v.print style depth ++ printItems style depth vs)

/-- The members of an object after the first, each behind a comma. -/
def printMembers (style : Style) (depth : Nat) : List (String × Value) → Bytes
  | [] => []
  | (name, v) :: ms =>
    ascii ',' :: (style.lineBreak depth ++ quotedString name ++ style.colon ++ v.print style depth
      ++ printMembers style depth ms)

end

/-- The compact text of a value. -/
def Value.encode (v : Value) : Bytes := v.print compact 0

/-- The text of a value with a line for each item. -/
def Value.prettyText (v : Value) : Bytes := v.print pretty 0

end ThreatLedger.Json
