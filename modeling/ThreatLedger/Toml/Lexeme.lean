/-
  What stands between the values of a TOML document: blanks, comments, line ends and keys.

  1. **Blanks** — spaces and tabs; inside brackets also line ends and comments (`skipTrivia`).
  2. **Line ends** — a line feed, with or without a carriage return before it; a carriage return alone is
     refused everywhere.
-/
import ThreatLedger.Text.Reader
import ThreatLedger.Toml.Value

namespace ThreatLedger.Toml

/-- A reader of TOML text. -/
abbrev Read (α : Type) := Reader Char Malformed α

/-- The reader that refuses. -/
def refuse {α : Type} : Read α := .fail ⟨⟩

/-! ## Blanks -/

/-- Whether a character is a blank within a line. -/
def isBlank (c : Char) : Bool := c = ' ' || c = '\t'

/-- Whether a character may stand in a comment or a string as it is. -/
def isPrintable (c : Char) : Bool := c = '\t' || (c.toNat ≠ 0x7f && 0x20 ≤ c.toNat)

/-- Drops blanks. -/
def skipBlank (s : List Char) : List Char := s.dropWhile isBlank

theorem skipBlank_le (s : List Char) : (skipBlank s).length ≤ s.length :=
  (List.dropWhile_suffix _).length_le

/-- Drops blanks, line ends and comments; `inComment` says that a comment has begun. -/
def skipTrivia : Bool → List Char → Except Malformed (List Char)
  | _, [] => .ok []
  | _, '\r' :: '\n' :: r => skipTrivia false r
  | inComment, c :: r =>
    if c = '\n' then skipTrivia false r
    else if inComment then if isPrintable c then skipTrivia true r else .error ⟨⟩
    else if isBlank c then skipTrivia false r
    else if c = '#' then skipTrivia true r
    else .ok (c :: r)

theorem skipTrivia_le (inComment : Bool) (s : List Char) {r : List Char}
    (h : skipTrivia inComment s = .ok r) : r.length ≤ s.length := by
  fun_induction skipTrivia inComment s <;> grind

/-! ## Line ends -/

/-- Drops a comment up to the end of its line. -/
def skipComment : List Char → List Char
  | '#' :: r => r.dropWhile isPrintable
  | s => s

/-- A comment is cut off at the front, up to the end of its line, so that what is left is no longer. -/
theorem skipComment_le (s : List Char) : (skipComment s).length ≤ s.length := by
  unfold skipComment
  split
  · exact Nat.le_succ_of_le (List.dropWhile_suffix _).length_le
  · exact Nat.le_refl _

/-- Drops a line end; the end of the text is one too. -/
def lineEnd : List Char → Except Malformed (List Char)
  | [] => .ok []
  | '\n' :: r => .ok r
  | '\r' :: '\n' :: r => .ok r
  | _ => .error ⟨⟩

/-- The end of a line is passed, unless it is that of the document, where nothing is left.  Lines are
read until then, so this is why the reader of them ends. -/
theorem lineEnd_lt {s r : List Char} (h : lineEnd s = .ok r) :
    r = [] ∨ r.length < s.length := by
  unfold lineEnd at h
  split at h
  · cases h; exact .inl rfl
  · cases h; exact .inr (Nat.lt_succ_self _)
  · cases h; exact .inr (Nat.lt_succ_of_lt (Nat.lt_succ_self _))
  · cases h

/-- Drops the rest of a line: blanks, a comment and the line end. -/
def endLine (s : List Char) : Except Malformed (List Char) := lineEnd (skipComment (skipBlank s))

/-- What may stand before the end of a line is passed with it, and what is left is no longer. -/
theorem endLine_le {s r : List Char} (h : endLine s = .ok r) : r.length ≤ s.length := by
  have := skipBlank_le s
  have := skipComment_le (skipBlank s)
  rcases lineEnd_lt h with rfl | hlt
  · simp
  · omega

/-- The rest of a line that is not empty is longer than what follows it: either there is something to
pass on the line, or its end. -/
theorem endLine_lt {s r : List Char} (hs : s ≠ []) (h : endLine s = .ok r) :
    r.length < s.length := by
  have := skipBlank_le s
  have := skipComment_le (skipBlank s)
  rcases lineEnd_lt h with rfl | hlt
  · exact List.length_pos_iff.2 hs
  · omega

end ThreatLedger.Toml
