/-
  Reading the numbers of a JSON text.

  1. **Integers** — digits without a fraction or an exponent that fit 64 bits, signed or unsigned, are an
     integer.  The one exception is `-0`, which is the double with that sign.
  2. **Doubles** — every other number.  As many leading digits as fit 64 bits are kept (`absorb`), and
     what is kept is scaled by a power of ten in steps that are each rounded (`scale`).
  3. **Refusals** — a leading zero before another digit, a point or an exponent without digits, and a
     size that no finite double has.
-/
import ThreatLedger.Json.Lexeme

namespace ThreatLedger.Json

/-! ## Digits -/

/-- The greatest significand that is kept. -/
def greatestKept : Nat := UInt64.size - 1

/-- Appends digits to a significand while it fits, and counts the digits that are left over. -/
def absorb (n : Nat) : Bytes → Nat × Nat
  | [] => (n, 0)
  | d :: ds =>
    let m := n * 10 + Ascii.digitValue d
    if m ≤ greatestKept then absorb m ds else (n, ds.length + 1)

/-- The natural that digits write. -/
def digitsValue (ds : Bytes) : Nat := ds.foldl (fun n d => n * 10 + Ascii.digitValue d) 0

/-- The leading digits of a text, and the rest. -/
def spanDigits (s : Bytes) : Bytes × Bytes := (s.takeWhile Ascii.isDigit, s.dropWhile Ascii.isDigit)

/-- The digits are cut off at the front, so that what is left is no longer.  There may be none, and then
it is all still there. -/
theorem spanDigits_le (s : Bytes) : (spanDigits s).2.length ≤ s.length :=
  (List.dropWhile_suffix _).length_le

/-! ## Doubles -/

/-- The size `x * 10 ^ e`, by way of powers of ten that a double holds. -/
def scale (x : Binary64) (e : Int) : Except Error Binary64 :=
  let step := Binary64.ofNat (Nat.pow 10 (min e.natAbs 308))
  if e.natAbs ≤ 308 then
    match step.bind fun p => if 0 ≤ e then x.mul p else x.div p with
    | some y => .ok y
    | none => .error .numberOutOfRange
  else if x.isZero then .ok x
  else if 0 ≤ e then .error .numberOutOfRange
  else
    match step.bind x.div with
    | some y => scale y (e + 308)
    | none => .error .numberOutOfRange
termination_by (-e).toNat

/-- The double `significand * 10 ^ e` with a sign. -/
def realNumber (negative : Bool) (significand : Nat) (e : Int) : Except Error Number :=
  match Binary64.ofNat significand with
  | none => .error .numberOutOfRange
  | some x =>
    match scale x e with
    | .error e => .error e
    | .ok x => .ok (.real (if negative then x.neg else x))

/-- The number that digits alone write: an integer, if it fits 64 bits and is not `-0`. -/
def wholeNumber (negative : Bool) (significand dropped : Nat) : Except Error Number :=
  if dropped = 0 ∧ !negative then .ok (.integer significand)
  else if dropped = 0 ∧ 0 < significand ∧ Int64.minValue.toInt ≤ -significand then
    .ok (.integer (-significand))
  else realNumber negative significand dropped

/-! ## The parts of a number -/

/-- The value of an exponent, behind its sign. -/
def exponentDigits (negative : Bool) (s : Bytes) : Except Error (Int × Bytes) :=
  match s with
  | [] => .error (.unfinished .value)
  | d :: _ =>
    if Ascii.isDigit d then
      let n : Int := digitsValue (spanDigits s).1
      .ok (if negative then -n else n, (spanDigits s).2)
    else .error .invalidNumber

/-- The value of an exponent, behind its letter. -/
def exponent (s : Bytes) : Except Error (Int × Bytes) :=
  match s with
  | [] => .error (.unfinished .value)
  | b :: r =>
    if b = ascii '+' then exponentDigits false r
    else if b = ascii '-' then exponentDigits true r
    else exponentDigits false s

/-- Whether a byte starts an exponent. -/
def isExponent (b : UInt8) : Bool := b = ascii 'e' || b = ascii 'E'

/-- A double whose digits have all been read, with the exponent that may follow. -/
def scaled (negative : Bool) (significand : Nat) (e : Int) (s : Bytes) :
    Except Error (Number × Bytes) :=
  match s with
  | [] => (realNumber negative significand e).map (·, [])
  | b :: r =>
    if isExponent b then
      match exponent r with
      | .error e => .error e
      | .ok (x, r) => (realNumber negative significand (e + x)).map (·, r)
    else (realNumber negative significand e).map (·, b :: r)

/-- A double, behind its point. -/
def fraction (negative : Bool) (significand : Nat) (e : Int) (s : Bytes) :
    Except Error (Number × Bytes) :=
  match s with
  | [] => .error (.unfinished .value)
  | d :: _ =>
    if Ascii.isDigit d then
      let digits := (spanDigits s).1
      let kept := absorb significand digits
      scaled negative kept.1 (e - (digits.length - kept.2 : Nat)) (spanDigits s).2
    else .error .invalidNumber

/-- A number, behind the digits before its point. -/
def behindDigits (negative : Bool) (significand dropped : Nat) (s : Bytes) :
    Except Error (Number × Bytes) :=
  match s with
  | [] => (wholeNumber negative significand dropped).map (·, [])
  | b :: r =>
    if b = ascii '.' then fraction negative significand dropped r
    else if isExponent b then scaled negative significand dropped (b :: r)
    else (wholeNumber negative significand dropped).map (·, b :: r)

/-- A number, behind its sign. -/
def unsigned (negative : Bool) (s : Bytes) : Except Error (Number × Bytes) :=
  match s with
  | [] => .error (.unfinished .value)
  | d :: r =>
    if d = ascii '0' then
      if (r.head?.map Ascii.isDigit).getD false then .error .invalidNumber
      else behindDigits negative 0 0 r
    else if Ascii.isDigit d then
      let kept := absorb 0 (spanDigits s).1
      behindDigits negative kept.1 kept.2 (spanDigits s).2
    else .error .invalidNumber

/-! ## What a number leaves is shorter -/

theorem map_rest {α β : Type} {x : Except Error α} {r t : Bytes} {b : β} {f : α → β}
    (h : x.map (fun a => (f a, r)) = .ok (b, t)) : t = r := by
  cases x with
  | error e => cases h
  | ok a =>
    cases h
    rfl

/-- What is left behind the digits of an exponent is no longer; there has to be one of them, or it is an
error. -/
theorem exponentDigits_le {g : Bool} {s r : Bytes} {n : Int} (h : exponentDigits g s = .ok (n, r)) :
    r.length ≤ s.length := by
  unfold exponentDigits at h
  split at h
  · cases h
  · split at h
    · cases h
      exact spanDigits_le _
    · cases h

/-- What is left behind an exponent with its sign is no longer, which is what `scaled_le` needs of
it. -/
theorem exponent_le {s r : Bytes} {n : Int} (h : exponent s = .ok (n, r)) :
    r.length ≤ s.length := by
  unfold exponent at h
  split at h
  · cases h
  · split at h
    · exact Nat.le_succ_of_le (exponentDigits_le h)
    · split at h
      · exact Nat.le_succ_of_le (exponentDigits_le h)
      · exact exponentDigits_le h

/-- A number that has been read up to its exponent leaves no more than was there, whether an exponent
follows or not. -/
theorem scaled_le {g : Bool} {m : Nat} {e : Int} {s r : Bytes} {n : Number}
    (h : scaled g m e s = .ok (n, r)) : r.length ≤ s.length := by
  unfold scaled at h
  split at h
  · exact Nat.le_of_eq (congrArg List.length (map_rest (f := id) h))
  · split at h
    · split at h
      · cases h
      · next he =>
        rw [map_rest (f := id) h]
        exact Nat.le_succ_of_le (exponent_le he)
    · exact Nat.le_of_eq (congrArg List.length (map_rest (f := id) h))

theorem fraction_le {g : Bool} {m : Nat} {e : Int} {s r : Bytes} {n : Number}
    (h : fraction g m e s = .ok (n, r)) : r.length ≤ s.length := by
  unfold fraction at h
  split at h
  · cases h
  · split at h
    · exact Nat.le_trans (scaled_le h) (spanDigits_le _)
    · cases h

theorem behindDigits_le {g : Bool} {m k : Nat} {s r : Bytes} {n : Number}
    (h : behindDigits g m k s = .ok (n, r)) : r.length ≤ s.length := by
  unfold behindDigits at h
  split at h
  · exact Nat.le_of_eq (congrArg List.length (map_rest (f := id) h))
  · split at h
    · exact Nat.le_succ_of_le (fraction_le h)
    · split at h
      · exact scaled_le h
      · exact Nat.le_of_eq (congrArg List.length (map_rest (f := id) h))

/-- **Progress.**  A number has at least one digit, so what is left behind it is shorter: a reader of
items does not stand still on a number. -/
theorem unsigned_lt {g : Bool} {s r : Bytes} {n : Number} (h : unsigned g s = .ok (n, r)) :
    r.length < s.length := by
  unfold unsigned at h
  split at h
  · cases h
  · next d t =>
    split at h
    · split at h
      · cases h
      · exact Nat.lt_succ_of_le (behindDigits_le h)
    · split at h
      · next hd =>
        have hs : (spanDigits (d :: t)).2 = (spanDigits t).2 := by simp [spanDigits, hd]
        exact Nat.lt_succ_of_le (Nat.le_trans (behindDigits_le h) (hs ▸ spanDigits_le t))
      · cases h

/-- Whether a byte starts a number. -/
def startsNumber (b : UInt8) : Bool := b = ascii '-' || Ascii.isDigit b

/-- A number, sign included. -/
def number : Read Number where
  run s :=
    match s with
    | [] => .error (.unfinished .value)
    | b :: r => if b = ascii '-' then unsigned true r else unsigned false s
  shorter h := by
    split at h
    · cases h
    · split at h
      · exact Nat.lt_succ_of_lt (unsigned_lt h)
      · exact unsigned_lt h

end ThreatLedger.Json
