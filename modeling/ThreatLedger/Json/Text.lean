/-
  Reading the strings of a JSON text.

  1. **Escapes** — a backslash and one character, or `\u` and four hexadecimal digits; a code point
     outside the basic plane is written as two such units, a leading and a trailing surrogate.
  2. **Strings** — `unescape` reads up to the closing quote and gives the bytes that are meant; `string`
     also asks that they are UTF-8, which a name or value has to be.
  3. **Passing over** — `passString` finds the end of a string whose content nobody asks for, and so
     checks its escapes only as far as they show where it ends.
-/
import ThreatLedger.Json.Lexeme

namespace ThreatLedger.Json

/-! ## Escapes -/

/-- The code unit that four hexadecimal digits give. -/
def hexUnit (s : Bytes) : Except Error (Nat × Bytes) :=
  match s with
  | a :: b :: c :: d :: r =>
    match Ascii.hexValue? a, Ascii.hexValue? b, Ascii.hexValue? c, Ascii.hexValue? d with
    | some a, some b, some c, some d => .ok (((a * 16 + b) * 16 + c) * 16 + d, r)
    | _, _, _, _ => .error .invalidEscape
  | _ => .error (.unfinished .string)

/-- The UTF-8 form of a code point. -/
def utf8 (n : Nat) : Bytes := String.utf8EncodeChar (Char.ofNat n)

/-- The trailing surrogate that has to stand behind a leading one. -/
def trailingUnit (s : Bytes) : Except Error (Nat × Bytes) :=
  match s with
  | [] => .error (.unfinished .string)
  | b :: s =>
    if b = ascii '\\' then
      match s with
      | [] => .error (.unfinished .string)
      | u :: s => if u = ascii 'u' then hexUnit s else .error .unfinishedSurrogate
    else .error .unfinishedSurrogate

/-- The bytes of a code point that is written in units, behind `\u`. -/
def unicodeEscape (s : Bytes) : Except Error (Bytes × Bytes) :=
  match hexUnit s with
  | .error e => .error e
  | .ok (lead, r) =>
    if 0xdc00 ≤ lead ∧ lead ≤ 0xdfff then .error .loneSurrogate
    else if lead < 0xd800 ∨ 0xdfff < lead then .ok (utf8 lead, r)
    else
      match trailingUnit r with
      | .error e => .error e
      | .ok (trail, r) =>
        if 0xdc00 ≤ trail ∧ trail ≤ 0xdfff then
          .ok (utf8 ((lead - 0xd800) * 0x400 + (trail - 0xdc00) + 0x10000), r)
        else .error .loneSurrogate

/-- The byte that a one-character escape means. -/
def shortEscape? (b : UInt8) : Option UInt8 :=
  if b = ascii '"' then some (ascii '"')
  else if b = ascii '\\' then some (ascii '\\')
  else if b = ascii '/' then some (ascii '/')
  else if b = ascii 'b' then some 0x08
  else if b = ascii 'f' then some 0x0c
  else if b = ascii 'n' then some 0x0a
  else if b = ascii 'r' then some 0x0d
  else if b = ascii 't' then some 0x09
  else none

/-- The bytes that an escape means, behind its backslash. -/
def escapeSequence (s : Bytes) : Except Error (Bytes × Bytes) :=
  match s with
  | [] => .error (.unfinished .string)
  | b :: s =>
    match shortEscape? b with
    | some c => .ok ([c], s)
    | none => if b = ascii 'u' then unicodeEscape s else .error .invalidEscape

/-- Four hexadecimal digits are passed, so what is left is shorter.  An escape by a code point rests on
this. -/
theorem hexUnit_lt {s r : Bytes} {n : Nat} (h : hexUnit s = .ok (n, r)) : r.length < s.length := by
  unfold hexUnit at h
  split at h
  · split at h
    · cases h
      simp only [List.length_cons]
      omega
    · cases h
  · cases h

/-- The second half of a surrogate pair takes an escape of its own, so what is left is shorter; where it
is missing there is an error, and nothing is passed. -/
theorem trailingUnit_lt {s r : Bytes} {n : Nat} (h : trailingUnit s = .ok (n, r)) :
    r.length < s.length := by
  unfold trailingUnit at h
  split at h
  · cases h
  · split at h
    · split at h
      · cases h
      · split at h
        · have := hexUnit_lt h
          simp only [List.length_cons]
          omega
        · cases h
    · cases h

/-- An escaped character leaves less than was there, be it written by one unit or by a surrogate
pair. -/
theorem unicodeEscape_lt {s r b : Bytes} (h : unicodeEscape s = .ok (b, r)) :
    r.length < s.length := by
  unfold unicodeEscape at h
  split at h
  · cases h
  · next hl =>
    have hl := hexUnit_lt hl
    split at h
    · cases h
    · split at h
      · cases h
        exact hl
      · split at h
        · cases h
        · next ht =>
          have ht := trailingUnit_lt ht
          split at h
          · obtain ⟨_, rfl⟩ := Prod.mk.inj (Except.ok.inj h)
            exact Nat.lt_trans ht hl
          · cases h

/-- **Progress.**  Every escape sequence passes at least the byte that names it, so that a text is read
to its end. -/
theorem escapeSequence_lt {s r b : Bytes} (h : escapeSequence s = .ok (b, r)) :
    r.length < s.length := by
  unfold escapeSequence at h
  split at h
  · cases h
  · split at h
    · cases h
      exact Nat.lt_succ_self _
    · split at h
      · exact Nat.lt_succ_of_lt (unicodeEscape_lt h)
      · cases h

/-! ## Strings -/

/-- One step through a string, with the bytes read so far in reverse: a byte as it stands, an escape, or
the closing quote. -/
def stringStep (acc : Bytes) : Read (Bytes ⊕ Bytes) where
  run s :=
    match s with
    | [] => .error (.unfinished .string)
    | b :: s =>
      if b = ascii '"' then .ok (.inr acc.reverse, s)
      else if b = ascii '\\' then
        match escapeSequence s with
        | .error e => .error e
        | .ok (bytes, r) => .ok (.inl (bytes.reverse ++ acc), r)
      else if b < 0x20 then .error .controlCharacter
      else .ok (.inl (b :: acc), s)
  shorter h := by
    split at h
    · cases h
    · split at h
      · cases h
        exact Nat.lt_succ_self _
      · split at h
        · split at h
          · cases h
          · next he =>
            cases h
            exact Nat.lt_succ_of_lt (escapeSequence_lt he)
        · split at h
          · cases h
          · cases h
            exact Nat.lt_succ_self _

/-- The bytes that a string means, behind its opening quote. -/
def unescape : Read Bytes := Reader.loop stringStep []

/-- The text that a string means, behind its opening quote. -/
def string : Read String where
  run s :=
    match unescape.run s with
    | .error e => .error e
    | .ok (bytes, r) =>
      match Bytes.text? bytes with
      | some t => .ok (t, r)
      | none => .error .invalidText
  shorter h := by
    split at h
    · cases h
    · next hu =>
      split at h
      · cases h
        exact unescape.shorter hu
      · cases h

/-! ## Passing over a string -/

/-- The text behind an escape, behind its backslash. -/
def passEscape (s : Bytes) : Except Error Bytes :=
  match s with
  | [] => .error (.unfinished .string)
  | b :: s =>
    match shortEscape? b with
    | some _ => .ok s
    | none =>
      if b = ascii 'u' then
        match hexUnit s with
        | .error e => .error e
        | .ok (_, r) => .ok r
      else .error .invalidEscape

/-- An escape that is passed without being decoded leaves less than was there as well, though of a
surrogate pair it passes the first half only. -/
theorem passEscape_lt {s r : Bytes} (h : passEscape s = .ok r) : r.length < s.length := by
  unfold passEscape at h
  split at h
  · cases h
  · split at h
    · cases h
      exact Nat.lt_succ_self _
    · split at h
      · split at h
        · cases h
        · next hu =>
          cases h
          exact Nat.lt_succ_of_lt (hexUnit_lt hu)
      · cases h

/-- One step over a string. -/
def passStringStep (_ : Unit) : Read (Unit ⊕ Unit) where
  run s :=
    match s with
    | [] => .error (.unfinished .string)
    | b :: s =>
      if b = ascii '"' then .ok (.inr (), s)
      else if b = ascii '\\' then
        match passEscape s with
        | .error e => .error e
        | .ok r => .ok (.inl (), r)
      else if b < 0x20 then .error .controlCharacter
      else .ok (.inl (), s)
  shorter h := by
    split at h
    · cases h
    · split at h
      · cases h
        exact Nat.lt_succ_self _
      · split at h
        · split at h
          · cases h
          · next he =>
            cases h
            exact Nat.lt_succ_of_lt (passEscape_lt he)
        · split at h
          · cases h
          · cases h
            exact Nat.lt_succ_self _

/-- Passes over a string, behind its opening quote. -/
def passString : Read Unit := Reader.loop passStringStep ()

end ThreatLedger.Json
