/-
  The order of texts is the order of their UTF-8 bytes.

  1. **Characters** — the bytes of a smaller character come first, whatever follows either of them:
     the first byte tells how many there are, and characters of as many bytes are compared by their
     bits, six in each byte behind the first.
  2. **Texts** — by induction, up to the first character in which two texts differ
     (`ofText_lt_iff`).
-/
import Mathlib.Tactic.SplitIfs
import ThreatLedger.Bytes

namespace ThreatLedger.Bytes

/-! ## Characters -/

/-- Bytes are compared one after the other, so a smaller first byte decides, and an equal one leaves it
to the rest. -/
theorem ofNat_cons_lt {a b : Nat} {x y : Bytes} (hb : b < 256) (h : a < b ∨ a = b ∧ x < y) :
    UInt8.ofNat a :: x < UInt8.ofNat b :: y := by
  rw [List.cons_lt_cons_iff]
  rcases h with h | ⟨rfl, h⟩
  · left
    rw [UInt8.lt_iff_toNat_lt, UInt8.toNat_ofNat', UInt8.toNat_ofNat']
    omega
  · exact .inr ⟨rfl, h⟩

/-- The bytes behind the first one hold six bits each, with a mark. -/
theorem trailing_cons_lt {a b : Nat} {x y : Bytes}
    (h : a % 64 < b % 64 ∨ a % 64 = b % 64 ∧ x < y) :
    UInt8.ofNat (a % 64 + 128) :: x < UInt8.ofNat (b % 64 + 128) :: y :=
  ofNat_cons_lt (by omega) (h.imp (by omega) fun h => ⟨by omega, h.2⟩)

/-- **The crux.**  A smaller character has the smaller encoding, whatever comes behind either.  The
cases are the four lengths of an encoding. -/
theorem utf8EncodeChar_append_lt {c d : Char} (h : c < d) (x y : Bytes) :
    String.utf8EncodeChar c ++ x < String.utf8EncodeChar d ++ y := by
  have h : c.val.toNat < d.val.toNat := h
  have hd : d.val.toNat < 0x110000 := by
    rcases d.valid with hd | hd <;> omega
  unfold String.utf8EncodeChar
  generalize c.val.toNat = v at h ⊢
  generalize d.val.toNat = w at h hd ⊢
  dsimp only
  split_ifs
  -- the smaller character has no more bytes, and if it has fewer, then the first byte tells
  all_goals try omega
  all_goals refine ofNat_cons_lt (by omega) ?_
  all_goals try exact .inl (by omega)
  · have hbits : v / 64 < w / 64 ∨ v / 64 = w / 64 ∧ v % 64 < w % 64 := by omega
    refine hbits.imp (by omega) fun h => ⟨by omega, ?_⟩
    exact trailing_cons_lt (.inl h.2)
  · have hbits : v / 4096 < w / 4096 ∨ v / 4096 = w / 4096 ∧ (v / 64 % 64 < w / 64 % 64 ∨
        v / 64 % 64 = w / 64 % 64 ∧ v % 64 < w % 64) := by omega
    refine hbits.imp (by omega) fun h => ⟨by omega, ?_⟩
    refine trailing_cons_lt (h.2.imp id fun h => ⟨h.1, ?_⟩)
    exact trailing_cons_lt (.inl h.2)
  · have hbits : v / 262144 < w / 262144 ∨ v / 262144 = w / 262144 ∧
        (v / 4096 % 64 < w / 4096 % 64 ∨ v / 4096 % 64 = w / 4096 % 64 ∧
          (v / 64 % 64 < w / 64 % 64 ∨ v / 64 % 64 = w / 64 % 64 ∧ v % 64 < w % 64)) := by omega
    refine hbits.imp (by omega) fun h => ⟨by omega, ?_⟩
    refine trailing_cons_lt (h.2.imp id fun h => ⟨h.1, ?_⟩)
    refine trailing_cons_lt (h.2.imp id fun h => ⟨h.1, ?_⟩)
    exact trailing_cons_lt (.inl h.2)

/-! ## Texts -/

theorem ofText_eq (s : String) : ofText s = s.toList.flatMap String.utf8EncodeChar := by
  show s.toUTF8.data.toList = _
  conv => lhs; rw [← String.ofList_toList (s := s)]
  rw [String.toUTF8_eq_toByteArray, String.toByteArray_ofList, List.utf8Encode,
    List.data_toByteArray]

/-- By induction on the characters: the first one that differs decides, before either encoding ends. -/
theorem utf8_lt {cs ds : List Char} (h : cs < ds) :
    cs.flatMap String.utf8EncodeChar < ds.flatMap String.utf8EncodeChar := by
  induction cs generalizing ds with
  | nil =>
    cases ds with
    | nil => exact absurd h (List.not_lt_nil _)
    | cons d ds =>
      rw [List.flatMap_cons]
      obtain ⟨b, bs, hb⟩ := List.exists_cons_of_ne_nil (String.utf8EncodeChar_ne_nil (c := d))
      rw [hb]
      exact List.nil_lt_cons _ _
  | cons c cs ih =>
    cases ds with
    | nil => exact absurd h (List.not_lt_nil _)
    | cons d ds =>
      rw [List.flatMap_cons, List.flatMap_cons]
      rcases List.cons_lt_cons_iff.mp h with hcd | ⟨rfl, hrest⟩
      · exact utf8EncodeChar_append_lt hcd _ _
      · exact List.append_left_lt (ih hrest)

theorem ofText_lt {a b : String} (h : a < b) : ofText a < ofText b := by
  rw [ofText_eq, ofText_eq]
  exact utf8_lt h

/-- **Byte order.**  Texts are in the order of their UTF-8 bytes.  Bytes are compared one by one and
characters by their numbers, and the encoding keeps the order of characters of all four lengths. -/
theorem ofText_lt_iff (a b : String) : ofText a < ofText b ↔ a < b := by
  refine ⟨fun h => String.not_le.mp fun hle => ?_, ofText_lt⟩
  by_cases hba : b < a
  · exact absurd h (List.lt_asymm (ofText_lt hba))
  · have hab : b = a := String.le_antisymm hle (String.not_lt.mp hba)
    exact absurd h (hab ▸ List.lt_irrefl _)

theorem ofText_le_iff (a b : String) : ofText a ≤ ofText b ↔ a ≤ b := by
  rw [← List.not_lt, ofText_lt_iff, String.not_lt]

end ThreatLedger.Bytes
