/-
  What is written compactly is a text.

  1. **Bytes** — `IsText b` says that bytes are the UTF-8 form of a text.  ASCII bytes are, and so are
     texts one behind the other.
  2. **Strings** — the bytes of a character are one ASCII byte, or none of them is ASCII; escapes put
     ASCII for ASCII, and so they never reach into a character of more bytes.
  3. **Values** — by induction on a value, its compact text is one (`encode_isText`).
-/
import Mathlib.Data.List.Basic
import ThreatLedger.Json.Printer
import ThreatLedger.Proofs.Text.ByteOrder

namespace ThreatLedger

namespace Bytes

/-! ## Bytes -/

/-- Bytes that are the UTF-8 form of a text. -/
def IsText (b : Bytes) : Prop := ∃ t, ofText t = b

theorem isText_ofText (t : String) : IsText (ofText t) := ⟨t, rfl⟩

/-- Texts one after the other are a text: no character is cut in two between them. -/
theorem isText_append {b c : Bytes} (hb : IsText b) (hc : IsText c) : IsText (b ++ c) := by
  obtain ⟨s, rfl⟩ := hb
  obtain ⟨t, rfl⟩ := hc
  refine ⟨s ++ t, ?_⟩
  rw [ofText_eq, ofText_eq, ofText_eq, String.toList_append, List.flatMap_append]

theorem isText_utf8 (c : Char) : IsText (String.utf8EncodeChar c) := by
  refine ⟨String.singleton c, ?_⟩
  rw [ofText_eq, String.toList_singleton]
  exact List.append_nil _

theorem utf8_of_lt {c : Char} (h : c.toNat < 128) :
    String.utf8EncodeChar c = [UInt8.ofNat c.toNat] := by
  unfold String.utf8EncodeChar
  exact if_pos (Nat.le_of_lt_succ h)

/-- No byte of a character that is not ASCII is ASCII itself, so that an escape never falls into a
character. -/
theorem le_utf8_of_le {c : Char} (h : 128 ≤ c.toNat) : ∀ b ∈ String.utf8EncodeChar c, 128 ≤ b := by
  have hbyte : ∀ n, 128 ≤ n % 256 → 128 ≤ UInt8.ofNat n := by
    intro n hn
    rw [UInt8.le_iff_toNat_le, UInt8.toNat_ofNat']
    exact hn
  have h : 128 ≤ c.val.toNat := h
  unfold String.utf8EncodeChar
  dsimp only
  split_ifs
  all_goals simp only [List.forall_mem_cons, List.not_mem_nil, false_implies, implies_true, and_true]
  · omega
  · exact ⟨hbyte _ (by omega), hbyte _ (by omega)⟩
  · exact ⟨hbyte _ (by omega), hbyte _ (by omega), hbyte _ (by omega)⟩
  · exact ⟨hbyte _ (by omega), hbyte _ (by omega), hbyte _ (by omega), hbyte _ (by omega)⟩

/-- A byte of its own is a character if it is below 128, and a text with what follows. -/
theorem isText_cons {x : UInt8} {b : Bytes} (hx : x < 128) (hb : IsText b) : IsText (x :: b) := by
  have hx : x.toNat < 128 := hx
  have hchar : (Char.ofNat x.toNat).toNat = x.toNat := by
    rw [Char.ofNat, dif_pos (.inl (by omega))]
    rfl
  have hutf8 : String.utf8EncodeChar (Char.ofNat x.toNat) = [x] := by
    rw [utf8_of_lt (by omega), hchar, UInt8.ofNat_toNat]
  exact isText_append (hutf8 ▸ isText_utf8 (Char.ofNat x.toNat)) hb

theorem isText_ascii {b : Bytes} (h : b.all (· < 128) = true) : IsText b := by
  induction b with
  | nil => exact ⟨"", rfl⟩
  | cons x b ih =>
    rw [List.all_cons, Bool.and_eq_true, decide_eq_true_eq] at h
    exact isText_cons h.1 (ih h.2)

end Bytes

namespace Json

open Bytes

/-! ## Strings -/

/-- What is written for a byte below 128 is below 128, checked byte by byte. -/
theorem escapeByte_ascii : ∀ n < 128, (escapeByte (UInt8.ofNat n)).all (· < 128) = true := by
  decide

/-- Bytes from 128 on stand as they are, so that the characters that they are part of stay whole. -/
theorem escapeByte_of_le {b : UInt8} (h : 128 ≤ b) : escapeByte b = [b] := by
  have hne : ∀ c : UInt8, c < 128 → b ≠ c := by
    rintro c hc rfl
    exact UInt8.not_le.mpr hc h
  unfold escapeByte
  rw [if_neg (hne _ (by decide)), if_neg (hne _ (by decide)),
    if_pos (UInt8.le_trans (by decide) h)]

/-- A character is written as an escape, or as it is; in either case it is a text by itself. -/
theorem escapeChar_isText (c : Char) :
    IsText ((String.utf8EncodeChar c).flatMap escapeByte) := by
  rcases Nat.lt_or_ge c.toNat 128 with hlt | hge
  · rw [utf8_of_lt hlt, List.flatMap_singleton]
    exact isText_ascii (escapeByte_ascii c.toNat hlt)
  · have hsame : (String.utf8EncodeChar c).flatMap escapeByte = String.utf8EncodeChar c := by
      rw [List.flatMap_congr fun b hb => escapeByte_of_le (le_utf8_of_le hge b hb)]
      exact List.flatMap_singleton' _
    rw [hsame]
    exact isText_utf8 c

/-- A printed string is a text, by induction on the characters of what it means. -/
theorem quotedString_isText (s : String) : IsText (quotedString s) := by
  have hinside : ∀ cs : List Char,
      IsText ((cs.flatMap String.utf8EncodeChar).flatMap escapeByte) := by
    intro cs
    induction cs with
    | nil => exact ⟨"", rfl⟩
    | cons c cs ih =>
      rw [List.flatMap_cons, List.flatMap_append]
      exact isText_append (escapeChar_isText c) ih
  have hquote : IsText [ascii '"'] := isText_ascii (by decide)
  unfold quotedString
  rw [ofText_eq]
  exact isText_append hquote (isText_append (hinside s.toList) hquote)

/-! ## Values -/

/-- A name, a colon and a value. -/
theorem member_isText (name : String) {b : Bytes} (h : IsText b) :
    IsText (quotedString name ++ [ascii ':'] ++ b) := by
  have hcolon : IsText [ascii ':'] := isText_ascii (by decide)
  exact isText_append (isText_append (quotedString_isText name) hcolon) h

-- a value, the items of a list and the members of an object, each from the parts that are printed
mutual

/-- By induction on the value, together with its items and its members: what is printed is a text. -/
theorem print_isText (depth : Nat) : ∀ v : Value, IsText (v.print compact depth)
  | .null => isText_ascii (b := nullLiteral) (by decide)
  | .bool true => isText_ascii (b := trueLiteral) (by decide)
  | .bool false => isText_ascii (b := falseLiteral) (by decide)
  | .number n => isText_ofText n.text
  | .string s => quotedString_isText s
  | .array [] => isText_ascii (b := [ascii '[', ascii ']']) (by decide)
  -- vs) => by :: the compact form has no line breaks, so a container is its bracket, its items and its
  -- bracket
  | .array (v :: vs) => by
    have hitems := isText_append (print_isText (depth + 1) v) (printItems_isText (depth + 1) vs)
    have hclose : IsText [ascii ']'] := isText_ascii (by decide)
    simp only [Value.print, compact, List.nil_append, List.append_nil]
    exact isText_cons (by decide) (isText_append hitems hclose)
  | .object [] => isText_ascii (b := [ascii '{', ascii '}']) (by decide)
  | .object ((name, v) :: ms) => by
    have hmembers := isText_append (member_isText name (print_isText (depth + 1) v))
      (printMembers_isText (depth + 1) ms)
    have hclose : IsText [ascii '}'] := isText_ascii (by decide)
    simp only [Value.print, compact, List.nil_append, List.append_nil]
    exact isText_cons (by decide) (isText_append hmembers hclose)

theorem printItems_isText (depth : Nat) : ∀ vs : List Value, IsText (printItems compact depth vs)
  | [] => ⟨"", rfl⟩
  | v :: vs => by
    have hitems := isText_append (print_isText depth v) (printItems_isText depth vs)
    simp only [printItems, compact, List.nil_append]
    exact isText_cons (by decide) hitems

theorem printMembers_isText (depth : Nat) :
    ∀ ms : List (String × Value), IsText (printMembers compact depth ms)
  | [] => ⟨"", rfl⟩
  | (name, v) :: ms => by
    have hmembers := isText_append (member_isText name (print_isText depth v))
      (printMembers_isText depth ms)
    simp only [printMembers, compact, List.nil_append]
    exact isText_cons (by decide) hmembers

end

/-- **Texts.**  What is encoded can be shown: it never breaks a character. -/
theorem encode_isText (v : Value) : IsText v.encode := print_isText 0 v

end Json
end ThreatLedger
