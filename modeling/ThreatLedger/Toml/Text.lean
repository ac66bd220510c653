/-
  The strings of a TOML document.

  1. **Basic strings** — between double quotes, with escapes.
  2. **Literal strings** — between single quotes, every character as it is.
  3. **Long strings** — between three quotes of either kind; they may span lines, a line end right behind
     the opening quotes does not count, and up to two quotes may stand before the closing ones.  In a long
     basic string a backslash at the end of a line drops the blanks and line ends that follow.
-/
import ThreatLedger.Text.Ascii
import ThreatLedger.Toml.Lexeme

namespace ThreatLedger.Toml

/-! ## Escapes -/

/-- The number that hexadecimal digits write. -/
def hexNumber? (cs : List Char) : Option Nat :=
  cs.foldlM (fun n c => (Ascii.hexValue? (ascii c)).bind fun d =>
    if c.toNat < 0x80 then some (16 * n + d) else none) 0

/-- The character whose code the first `n` characters write. -/
def codePoint (n : Nat) (s : List Char) : Except Malformed (Char × List Char) :=
  if (s.take n).length < n then .error ⟨⟩
  else
    match hexNumber? (s.take n) with
    | some code => if code.isValidChar then .ok (Char.ofNat code, s.drop n) else .error ⟨⟩
    | none => .error ⟨⟩

/-- The digits of a code point are passed, so that what is left is no longer. -/
theorem codePoint_le {n : Nat} {s r : List Char} {c : Char} (h : codePoint n s = .ok (c, r)) :
    r.length ≤ s.length := by
  unfold codePoint at h
  split at h
  · cases h
  · split at h
    · split at h
      · obtain ⟨_, rfl⟩ := Prod.mk.inj (Except.ok.inj h)
        simp
      · cases h
    · cases h

/-- The character that an escape stands for, behind the backslash. -/
def escape : List Char → Except Malformed (Char × List Char)
  | [] => .error ⟨⟩
  | c :: r =>
    if c = 'b' then .ok ('\x08', r)
    else if c = 't' then .ok ('\t', r)
    else if c = 'n' then .ok ('\n', r)
    else if c = 'f' then .ok ('\x0c', r)
    else if c = 'r' then .ok ('\r', r)
    else if c = '"' then .ok ('"', r)
    else if c = '\\' then .ok ('\\', r)
    else if c = 'u' then codePoint 4 r
    else if c = 'U' then codePoint 8 r
    else .error ⟨⟩

/-- What is left behind an escape is no longer, whether it is a letter or a code point of four or eight
digits. -/
theorem escape_le {s r : List Char} {c : Char} (h : escape s = .ok (c, r)) :
    r.length ≤ s.length := by
  cases s with
  | nil => cases h
  | cons d t =>
    have hc {n : Nat} (h : codePoint n t = .ok (c, r)) : r.length ≤ t.length := codePoint_le h
    have hk {x : Char} (h : (.ok (x, t) : Except Malformed (Char × List Char)) = .ok (c, r)) :
        r.length ≤ t.length := by
      obtain ⟨_, rfl⟩ := Prod.mk.inj (Except.ok.inj h)
      exact Nat.le_refl _
    have : r.length ≤ t.length := by
      simp only [escape] at h
      repeat' split at h
      all_goals first | exact hk h | exact hc h | cases h
    exact Nat.le_succ_of_le this

/-! ## Strings on one line -/

/-- What has been read of a string: its characters, the last one first. -/
abbrev Gathered := List Char

/-- A string that is complete. -/
def Gathered.text (g : Gathered) : String := String.ofList g.reverse

/-- One character of a string that ends with `quote`; `escapes` says whether backslashes escape. -/
def stringStep (quote : Char) (escapes : Bool) (g : Gathered) : Read (Gathered ⊕ String) :=
  (Reader.one ⟨⟩ .ok).followedBy
    (fun c r =>
      if c = quote then .ok (.inr g.text, r)
      else if escapes ∧ c = '\\' then (escape r).map fun e => (.inl (e.1 :: g), e.2)
      else if isPrintable c then .ok (.inl (c :: g), r)
      else .error ⟨⟩)
    (by
      intro c s x r h
      split at h
      · cases h; exact Nat.le_refl _
      · split at h
        · cases he : escape s with
          | error e => rw [he] at h; cases h
          | ok e => rw [he] at h; cases h; exact escape_le he
        · split at h
          · cases h; exact Nat.le_refl _
          · cases h)

/-- A string on one line, behind its opening quote. -/
def shortString (quote : Char) (escapes : Bool) : Read String :=
  Reader.loop (stringStep quote escapes) []

/-! ## Long strings -/

/-- Drops the blanks and line ends behind a backslash at the end of a line. -/
def skipLines : List Char → Except Malformed (List Char)
  | [] => .ok []
  | '\r' :: '\n' :: r => skipLines r
  | c :: r => if isBlank c || c = '\n' then skipLines r else .ok (c :: r)

theorem skipLines_le (s : List Char) {r : List Char} (h : skipLines s = .ok r) :
    r.length ≤ s.length := by
  fun_induction skipLines s <;> grind

/-- Whether nothing but blanks stands in front of a line end. -/
def atLineEnd (s : List Char) : Bool :=
  match skipBlank s with
  | '\n' :: _ => true
  | '\r' :: '\n' :: _ => true
  | _ => false

/-- What a backslash stands for in a long string: a character, or nothing at the end of a line. -/
def longEscape (g : Gathered) (s : List Char) : Except Malformed (Gathered × List Char) :=
  if atLineEnd s then (skipLines s).map (g, ·) else (escape s).map fun e => (e.1 :: g, e.2)

/-- In a text of several lines an escape may also be the end of a line, with the blanks that follow;
what is left is no longer in either case. -/
theorem longEscape_le {g g' : Gathered} {s r : List Char} (h : longEscape g s = .ok (g', r)) :
    r.length ≤ s.length := by
  unfold longEscape at h
  split at h
  · cases hs : skipLines s with
    | error e => rw [hs] at h; cases h
    | ok t => rw [hs] at h; cases h; exact skipLines_le s hs
  · cases he : escape s with
    | error e => rw [he] at h; cases h
    | ok e => rw [he] at h; cases h; exact escape_le he

/-- How many of the quotes that a text starts with belong to the string before it: of three to five
all but the last three, and none if there are fewer. -/
def closing? (quote : Char) (s : List Char) : Option Nat :=
  let n := ((s.take 5).takeWhile (· = quote)).length
  if 3 ≤ n then some (n - 3) else none

/-- One character of a long string that ends with three of `quote`. -/
def longStep (quote : Char) (escapes : Bool) (g : Gathered) : Read (Gathered ⊕ String) where
  run s :=
    match closing? quote s with
    | some n => .ok (.inr (Gathered.text (List.replicate n quote ++ g)), s.drop (n + 3))
    | none =>
      match s with
      | [] => .error ⟨⟩
      | '\r' :: '\n' :: r => .ok (.inl ('\n' :: '\r' :: g), r)
      | c :: r =>
        if escapes ∧ c = '\\' then (longEscape g r).map fun e => (.inl e.1, e.2)
        else if isPrintable c || c = '\n' then .ok (.inl (c :: g), r)
        else .error ⟨⟩
  shorter {s x r} h := by
    split at h
    · next n hn =>
      cases h
      have : s ≠ [] := by rintro rfl; simp [closing?] at hn
      have := List.length_pos_iff.2 this
      simp only [List.length_drop]
      omega
    · split at h
      · cases h
      · cases h; exact Nat.lt_succ_of_lt (Nat.lt_succ_self _)
      · next c t _ _ =>
        split at h
        · cases he : longEscape g t with
          | error e => rw [he] at h; cases h
          | ok e => rw [he] at h; cases h; exact Nat.lt_succ_of_le (longEscape_le he)
        · split at h
          · cases h; exact Nat.lt_succ_self _
          · cases h

/-- Drops the line end right behind the opening quotes. -/
def skipFirstLineEnd : List Char → List Char
  | '\n' :: r => r
  | '\r' :: '\n' :: r => r
  | s => s

theorem skipFirstLineEnd_le (s : List Char) : (skipFirstLineEnd s).length ≤ s.length := by
  unfold skipFirstLineEnd
  split
  · exact Nat.le_succ _
  · exact Nat.le_succ_of_le (Nat.le_succ _)
  · exact Nat.le_refl _

/-- A long string, behind its opening quotes. -/
def longString (quote : Char) (escapes : Bool) : Read String :=
  .after skipFirstLineEnd skipFirstLineEnd_le (Reader.loop (longStep quote escapes) [])

/-! ## Strings of either length -/

/-- A string behind one quote: two more open a long one. -/
def behindQuote (quote : Char) (escapes : Bool) : Read String where
  run s :=
    match s with
    | a :: b :: r =>
      if a = quote ∧ b = quote then (longString quote escapes).run r
      else (shortString quote escapes).run s
    | _ => (shortString quote escapes).run s
  shorter {s x r} h := by
    split at h
    · split at h
      · exact Nat.lt_succ_of_lt (Nat.lt_succ_of_lt (Reader.shorter _ h))
      · exact Reader.shorter _ h
    · exact Reader.shorter _ h

end ThreatLedger.Toml
