/-
  Raw bytes, and the bytes of a text.

  1. **Data** — `Bytes` is a list of octets; a text is a `String`, and `Bytes.ofText` is its UTF-8 form.
  2. **Reading back** — `Bytes.text?` answers only for well-formed UTF-8, and gives back what has been
     written (`text?_ofText`), so a text is never confused with another one.
  3. **Reading anything** — `Bytes.readableText` puts U+FFFD for what is no UTF-8.
  4. **Hexadecimal** — two lower-case digits a byte, and back.
-/
namespace ThreatLedger

/-- Raw bytes, as a store keeps them and a file holds them. -/
abbrev Bytes := List UInt8

namespace Bytes

/-- The UTF-8 form of a text. -/
def ofText (s : String) : Bytes := s.toUTF8.data.toList

/-- The text whose UTF-8 form the bytes are; nothing when they are not UTF-8. -/
def text? (b : Bytes) : Option String := String.fromUTF8? ⟨b.toArray⟩

/-- A text is read back from its bytes.  This is where the model rests on the library's own encoding of
characters, in which no two texts have the same bytes. -/
theorem text?_ofText (s : String) : text? (ofText s) = some s := by
  have h : (⟨(ofText s).toArray⟩ : ByteArray) = s.toUTF8 := by simp [ofText]
  unfold text? String.fromUTF8?
  rw [h, String.toUTF8_eq_toByteArray, dif_pos s.isValidUTF8]
  rfl

/-! ## Reading anything -/

/-- Whether bytes start a character and do not finish it. -/
def isUnfinished (b : Bytes) : Bool :=
  [1, 2, 3].any fun n => [0x80, 0xbf].any fun x => (text? (b ++ List.replicate n x)).isSome

/-- What bytes start with, and how many of them it takes: a character, or U+FFFD for as many bytes as start
a character without finishing it, and for one byte where none starts. -/
def readableFront (b : Bytes) : String × Nat :=
  match [1, 2, 3, 4].findSome? fun n => (text? (b.take n)).map (·, n) with
  | some front => front
  | none => ("\ufffd", ([3, 2].find? fun n => isUnfinished (b.take n)).getD 1)

/-- The text of bytes, with U+FFFD for what is no UTF-8. -/
def readableText : Bytes → String
  | [] => ""
  | x :: b =>
    let (front, n) := readableFront (x :: b)
    front ++ readableText (b.drop (n - 1))
termination_by b => b.length
decreasing_by
  simp only [List.length_drop, List.length_cons]
  omega

/-! ## Hexadecimal -/

/-- The character of a hexadecimal digit, lower case. -/
def hexDigit (n : Nat) : Char :=
  if n < 10 then Char.ofNat (0x30 + n) else Char.ofNat (0x57 + n)

/-- Two lower-case hexadecimal digits a byte. -/
def hex (b : Bytes) : String :=
  String.ofList (b.flatMap fun x => [hexDigit (x.toNat / 16), hexDigit (x.toNat % 16)])

/-- The value of a hexadecimal digit, lower case. -/
def hexDigitValue? (c : Char) : Option Nat :=
  if '0' ≤ c ∧ c ≤ '9' then some (c.toNat - 0x30)
  else if 'a' ≤ c ∧ c ≤ 'f' then some (c.toNat - 0x57)
  else none

/-- The bytes that pairs of hexadecimal digits write. -/
def ofHexDigits? : List Char → Option Bytes
  | [] => some []
  | [_] => none
  | c :: d :: cs => do
    let x ← hexDigitValue? c
    let y ← hexDigitValue? d
    let b ← ofHexDigits? cs
    some (UInt8.ofNat (16 * x + y) :: b)

/-- The bytes that a text writes in hexadecimal digits. -/
def ofHex? (s : String) : Option Bytes := ofHexDigits? s.toList

end Bytes
end ThreatLedger
