/-
  ASCII characters as bytes: all punctuation, white space, digits and letters that a format's grammar
  names are ASCII, so a byte is compared with the code of a character.
-/
namespace ThreatLedger

/-- The byte of an ASCII character. -/
@[reducible] def ascii (c : Char) : UInt8 := c.toUInt8

namespace Ascii

/-- Whether a byte is a decimal digit. -/
def isDigit (b : UInt8) : Bool := ascii '0' ≤ b && b ≤ ascii '9'

/-- The value of a decimal digit. -/
def digitValue (b : UInt8) : Nat := b.toNat - 0x30

/-- The value of a hexadecimal digit of either case. -/
def hexValue? (b : UInt8) : Option Nat :=
  if isDigit b then some (b.toNat - 0x30)
  else if ascii 'a' ≤ b && b ≤ ascii 'f' then some (b.toNat - 0x57)
  else if ascii 'A' ≤ b && b ≤ ascii 'F' then some (b.toNat - 0x37)
  else none

end Ascii
end ThreatLedger
