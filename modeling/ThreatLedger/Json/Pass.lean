/-
  Passing over a value that nobody asks for.

  1. **Scalars** — literals and strings are read to their end; a number is only checked for its form, so
     its size does not matter.
  2. **Containers** — the open containers are a stack, so a value may nest to any depth: `resume` goes on
     behind a finished value, `enter` behind an opening bracket, and `place` finds the next value.
  3. **Values** — `passValue` repeats these steps until the stack is empty.
-/
import ThreatLedger.Json.Text
import ThreatLedger.Json.Number

namespace ThreatLedger.Json

/-! ## Numbers -/

/-- The text behind an exponent, behind its sign. -/
def passExponentDigits (s : Bytes) : Except Error Bytes :=
  match s with
  | [] => .error .invalidNumber
  | d :: r => if Ascii.isDigit d then .ok (spanDigits r).2 else .error .invalidNumber

/-- The text behind an exponent, behind its letter. -/
def passExponent (s : Bytes) : Except Error Bytes :=
  match s with
  | [] => .error .invalidNumber
  | b :: r =>
    if b = ascii '+' || b = ascii '-' then passExponentDigits r else passExponentDigits (b :: r)

/-- The text behind a fraction, behind its point. -/
def passFraction (s : Bytes) : Except Error Bytes :=
  match s with
  | [] => .error .invalidNumber
  | d :: r =>
    if Ascii.isDigit d then
      match (spanDigits r).2 with
      | [] => .ok []
      | b :: r => if isExponent b then passExponent r else .ok (b :: r)
    else .error .invalidNumber

/-- The text behind a number, behind the digits before its point. -/
def passBehindDigits (s : Bytes) : Except Error Bytes :=
  match s with
  | [] => .ok []
  | b :: r =>
    if b = ascii '.' then passFraction r
    else if isExponent b then passExponent r
    else .ok (b :: r)

/-- The text behind a number, behind its sign. -/
def passUnsigned (s : Bytes) : Except Error Bytes :=
  match s with
  | [] => .error .invalidNumber
  | d :: r =>
    if d = ascii '0' then
      if (r.head?.map Ascii.isDigit).getD false then .error .invalidNumber else passBehindDigits r
    else if Ascii.isDigit d then passBehindDigits (spanDigits r).2
    else .error .invalidNumber

/-- Passing the digits of an exponent leaves no more than was there, as reading them does: both stop at
the first byte that is no digit. -/
theorem passExponentDigits_le {s r : Bytes} (h : passExponentDigits s = .ok r) :
    r.length ≤ s.length := by
  unfold passExponentDigits at h
  split at h
  · cases h
  · split at h
    · cases h
      exact Nat.le_succ_of_le (spanDigits_le _)
    · cases h

theorem passExponent_le {s r : Bytes} (h : passExponent s = .ok r) : r.length ≤ s.length := by
  unfold passExponent at h
  split at h
  · cases h
  · split at h
    · exact Nat.le_succ_of_le (passExponentDigits_le h)
    · exact passExponentDigits_le h

/-- What is left behind a fraction is no longer; an exponent may follow it, and then that is passed as
well. -/
theorem passFraction_le {s r : Bytes} (h : passFraction s = .ok r) : r.length ≤ s.length := by
  unfold passFraction at h
  split at h
  · cases h
  · next d t =>
    have ht := spanDigits_le t
    split at h
    · split at h
      · cases h
        exact Nat.zero_le _
      · next hb =>
        rw [hb] at ht
        split at h
        · exact Nat.le_succ_of_le
            (Nat.le_trans (passExponent_le h) (Nat.le_of_succ_le ht))
        · cases h
          exact Nat.le_succ_of_le ht
    · cases h

theorem passBehindDigits_le {s r : Bytes} (h : passBehindDigits s = .ok r) :
    r.length ≤ s.length := by
  unfold passBehindDigits at h
  split at h
  · cases h
    exact Nat.le_refl _
  · split at h
    · exact Nat.le_succ_of_le (passFraction_le h)
    · split at h
      · exact Nat.le_succ_of_le (passExponent_le h)
      · cases h
        exact Nat.le_refl _

/-- **Progress.**  A number that is passed has at least one digit, as one that is read, so what is left
behind it is shorter. -/
theorem passUnsigned_lt {s r : Bytes} (h : passUnsigned s = .ok r) : r.length < s.length := by
  unfold passUnsigned at h
  split at h
  · cases h
  · split at h
    · split at h
      · cases h
      · exact Nat.lt_succ_of_le (passBehindDigits_le h)
    · split at h
      · exact Nat.lt_succ_of_le (Nat.le_trans (passBehindDigits_le h) (spanDigits_le _))
      · cases h

/-! ## Scalars -/

/-- The text behind a value that starts with `b` and is no container. -/
def passScalar (b : UInt8) (s : Bytes) : Except Error Bytes :=
  if b = ascii 'n' then literal [ascii 'u', ascii 'l', ascii 'l'] s
  else if b = ascii 't' then literal [ascii 'r', ascii 'u', ascii 'e'] s
  else if b = ascii 'f' then literal [ascii 'a', ascii 'l', ascii 's', ascii 'e'] s
  else if b = ascii '-' then passUnsigned s
  else if Ascii.isDigit b then passUnsigned (b :: s)
  else if b = ascii '"' then
    match passString.run s with
    | .error e => .error e
    | .ok (_, r) => .ok r
  else .error .expectedValue

/-- What is left behind a scalar is no longer than what came after its first byte, whichever scalar that
byte begins. -/
theorem passScalar_le {b : UInt8} {s r : Bytes} (h : passScalar b s = .ok r) :
    r.length ≤ s.length := by
  unfold passScalar at h
  split at h
  · exact literal_le h
  · split at h
    · exact literal_le h
    · split at h
      · exact literal_le h
      · split at h
        · exact Nat.le_of_lt (passUnsigned_lt h)
        · split at h
          · exact Nat.le_of_lt_succ (passUnsigned_lt h)
          · split at h
            · split at h
              · cases h
              · next hp =>
                cases h
                exact Nat.le_of_lt (passString.shorter hp)
            · cases h

/-! ## Containers -/

/-- The text where the next value of a container starts; in an object that is behind its name. -/
def Frame.place (f : Frame) (s : Bytes) : Except Error Bytes :=
  match f with
  | .list => .ok s
  | .object =>
    match skipBlank s with
    | [] => .error (.unfinished (.frame .object))
    | b :: r =>
      if b = ascii '"' then
        match (passString.bind fun _ => colon).run r with
        | .error e => .error e
        | .ok (_, r) => .ok r
      else .error .nameNotString

/-- The containers that are open where the next value starts, or the end of the outermost value. -/
abbrev Passing := List Frame ⊕ Unit

/-- Goes on where the next value of the innermost container starts. -/
def nextPlace (f : Frame) (outer : List Frame) (s : Bytes) : Except Error (Passing × Bytes) :=
  match f.place s with
  | .error e => .error e
  | .ok r => .ok (.inl (f :: outer), r)

/-- Goes on behind a value, inside the open containers. -/
def resume : List Frame → Bytes → Except Error (Passing × Bytes)
  | [], s => .ok (.inr (), s)
  | f :: outer, s =>
    match skipBlank s with
    | [] => .error (.unfinished (.frame f))
    | b :: r =>
      if b = ascii ',' then nextPlace f outer r
      else if b = f.close then resume outer r
      else .error (.expectedSeparator f)

/-- Goes on behind the bracket that opens a container. -/
def enter (f : Frame) (outer : List Frame) (s : Bytes) : Except Error (Passing × Bytes) :=
  match skipBlank s with
  | [] => .error (.unfinished (.frame f))
  | b :: r => if b = f.close then resume outer r else nextPlace f outer (b :: r)

/-- Passing the name of a member and its colon leaves no more than was there; in a list there is nothing
to pass. -/
theorem Frame.place_le {f : Frame} {s r : Bytes} (h : f.place s = .ok r) :
    r.length ≤ s.length := by
  unfold Frame.place at h
  split at h
  · cases h
    exact Nat.le_refl _
  · split at h
    · cases h
    · next hb =>
      split at h
      · split at h
        · cases h
        · next hp =>
          cases h
          exact Nat.le_of_lt (Nat.lt_trans (Reader.shorter _ hp) (skipBlank_cons_lt hb))
      · cases h

theorem nextPlace_le {f : Frame} {outer : List Frame} {s r : Bytes} {p : Passing}
    (h : nextPlace f outer s = .ok (p, r)) : r.length ≤ s.length := by
  unfold nextPlace at h
  split at h
  · cases h
  · next hp =>
    cases h
    exact Frame.place_le hp

/-- When a value has ended, the containers around it go on or end too.  By induction on those, nothing
is taken back on the way. -/
theorem resume_le {frames : List Frame} {s r : Bytes} {p : Passing}
    (h : resume frames s = .ok (p, r)) : r.length ≤ s.length := by
  induction frames generalizing s with
  | nil =>
    cases h
    exact Nat.le_refl _
  | cons f outer ih =>
    unfold resume at h
    split at h
    · cases h
    · next hb =>
      have hb := Nat.le_of_lt (skipBlank_cons_lt hb)
      split at h
      · exact Nat.le_trans (nextPlace_le h) hb
      · split at h
        · exact Nat.le_trans (ih h) hb
        · cases h

/-- Entering a container passes its bracket, and what is left is no longer, be the container empty or
not. -/
theorem enter_le {f : Frame} {outer : List Frame} {s r : Bytes} {p : Passing}
    (h : enter f outer s = .ok (p, r)) : r.length ≤ s.length := by
  have hs := skipBlank_le s
  unfold enter at h
  split at h
  · cases h
  · next hb =>
    rw [hb] at hs
    split at h
    · exact Nat.le_trans (resume_le h) (Nat.le_of_succ_le hs)
    · exact Nat.le_trans (nextPlace_le h) hs

/-! ## Values -/

/-- Passes over one scalar or one opening bracket, inside the open containers. -/
def passStep (frames : List Frame) : Read Passing where
  run s :=
    match skipBlank s with
    | [] => .error (.unfinished .value)
    | b :: r =>
      if b = ascii '[' then enter .list frames r
      else if b = ascii '{' then enter .object frames r
      else
        match passScalar b r with
        | .error e => .error e
        | .ok r => resume frames r
  shorter {s _ _} h := by
    split at h
    · cases h
    · next b t hb =>
      have hb := skipBlank_cons_lt hb
      split at h
      · exact Nat.lt_of_le_of_lt (enter_le h) hb
      · split at h
        · exact Nat.lt_of_le_of_lt (enter_le h) hb
        · split at h
          · cases h
          · next hv =>
            exact Nat.lt_of_le_of_lt (Nat.le_trans (resume_le h) (passScalar_le hv)) hb

/-- Passes over a value. -/
def passValue : Read Unit := Reader.loop passStep []

end ThreatLedger.Json
