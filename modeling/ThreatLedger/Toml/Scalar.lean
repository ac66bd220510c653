/-
  The values of a TOML document that stand without quotes or brackets.

  1. **Lexemes** — the longest run of letters, digits and the signs of numbers and times; a date and a time
     with a blank between them are one lexeme.
  2. **Numbers** — underscores may stand between digits.  A decimal integer has no leading zero; other
     bases have no sign.  A point or an exponent makes a number real.
  3. **Scalars** — a lexeme is a truth value, an integer, a real number or a moment, or it is refused.
-/
import ThreatLedger.Text.Ascii
import ThreatLedger.Toml.Lexeme
import ThreatLedger.Toml.Moment

namespace ThreatLedger.Toml

namespace Scalar

/-! ## Digits -/

/-- The digits of a number in a base; `afterDigit` says that a digit stands right before them. -/
def digits? (base : Nat) : Bool → List Char → Option (List Nat)
  | afterDigit, [] => if afterDigit then some [] else none
  | afterDigit, c :: cs =>
    if c = '_' then if afterDigit then digits? base false cs else none
    else
      match if c.toNat < 0x80 then Ascii.hexValue? (ascii c) else none with
      | some d => if d < base then (digits? base true cs).map (d :: ·) else none
      | none => none

/-- The number that digits write. -/
def ofDigits (base : Nat) (ds : List Nat) : Nat := ds.foldl (fun n d => base * n + d) 0

/-- A natural in decimal digits, without a leading zero. -/
def decimal? (cs : List Char) : Option Nat :=
  if cs.head? = some '0' ∧ 1 < cs.length then none else (digits? 10 false cs).map (ofDigits 10)

/-- What stands behind a sign, and whether the sign is a minus. -/
def unsigned : List Char → Bool × List Char
  | '-' :: cs => (true, cs)
  | '+' :: cs => (false, cs)
  | cs => (false, cs)

/-! ## Integers -/

/-- A natural as an integer of a sign. -/
def signed (negative : Bool) (n : Nat) : Int := if negative then -n else n

/-- The integer that a lexeme writes. -/
def integer? (cs : List Char) : Option Int :=
  match cs with
  | '0' :: 'x' :: ds => (digits? 16 false ds).map fun ds => (ofDigits 16 ds : Int)
  | '0' :: 'o' :: ds => (digits? 8 false ds).map fun ds => (ofDigits 8 ds : Int)
  | '0' :: 'b' :: ds => (digits? 2 false ds).map fun ds => (ofDigits 2 ds : Int)
  | _ => (decimal? (unsigned cs).2).map (signed (unsigned cs).1)

/-! ## Real numbers -/

/-- The number of decimal digits that are enough to leave the range of doubles. -/
def beyondDoubles : Nat := 400

/-- The real number `n * 10 ^ e` with a sign. -/
def realOf (negative : Bool) (n : Nat) (e : Int) : Real :=
  let sized (x : Option Binary64) : Real :=
    match x with
    | some x => .finite (if negative then x.neg else x)
    | none => .tooLarge
  if n = 0 then sized (some .zero)
  else if beyondDoubles < e then .tooLarge
  else if e + (toString n).length < -beyondDoubles then sized (some .zero)
  else if 0 ≤ e then sized (Binary64.ofRatio (n * Nat.pow 10 e.toNat) 1)
  else sized (Binary64.ofRatio n (Nat.pow 10 (-e).toNat))

/-- The exponent behind a number; nothing stands for zero. -/
def exponent? : List Char → Option Int
  | [] => some 0
  | _ :: cs => (digits? 10 false (unsigned cs).2).map fun ds => signed (unsigned cs).1 (ofDigits 10 ds)

/-- The digits behind a point; nothing stands for none. -/
def fraction? : List Char → Option (List Nat)
  | [] => some []
  | _ :: cs => digits? 10 false cs

/-- Whether a character starts an exponent. -/
def isExponent (c : Char) : Bool := c = 'e' || c = 'E'

/-- The real number that a lexeme writes, behind its sign. -/
def unsignedReal? (negative : Bool) (cs : List Char) : Option Real :=
  if cs = "inf".toList ∨ cs = "nan".toList then some .special
  else do
    let number := cs.takeWhile fun c => !isExponent c
    let whole ← decimal? (number.takeWhile (· ≠ '.'))
    let fraction ← fraction? (number.dropWhile (· ≠ '.'))
    let e ← exponent? (cs.dropWhile fun c => !isExponent c)
    some (realOf negative (fraction.foldl (fun n d => 10 * n + d) whole) (e - fraction.length))

/-- The real number that a lexeme writes. -/
def real? (cs : List Char) : Option Real := unsignedReal? (unsigned cs).1 (unsigned cs).2

/-! ## Lexemes -/

/-- Whether a character may stand in a lexeme. -/
def isPart (c : Char) : Bool :=
  c.isAlphanum || c = '+' || c = '-' || c = '.' || c = '_' || c = ':'

/-- The lexeme that a text starts with, and the rest. -/
def lexeme (s : List Char) : List Char × List Char :=
  let word := s.takeWhile isPart
  let rest := s.dropWhile isPart
  match rest with
  | ' ' :: d :: r =>
    if Moment.isDate word ∧ d.isDigit then
      (word ++ ' ' :: (d :: r).takeWhile isPart, (d :: r).dropWhile isPart)
    else (word, rest)
  | _ => (word, rest)

theorem dropWhile_isPart_le (s : List Char) : (s.dropWhile isPart).length ≤ s.length :=
  (List.dropWhile_suffix _).length_le

/-- **Progress.**  A lexeme that is not empty is cut off at the front, also when a date and a time are
joined into one by a space. -/
theorem lexeme_lt {s : List Char} (h : (lexeme s).1 ≠ []) : (lexeme s).2.length < s.length := by
  cases s with
  | nil => simp [lexeme] at h
  | cons c t =>
    by_cases hc : isPart c
    · have : ∀ u, (c :: t).dropWhile isPart = u → u.length ≤ t.length := by
        rintro _ rfl
        rw [List.dropWhile_cons_of_pos hc]
        exact dropWhile_isPart_le t
      unfold lexeme
      simp only
      split
      · next d r hr =>
        have ht := this _ hr
        have := dropWhile_isPart_le (d :: r)
        split
        · simp only [List.length_cons] at ht this ⊢
          omega
        · rw [hr]
          exact Nat.lt_succ_of_le ht
      · exact Nat.lt_succ_of_le (this _ rfl)
    · exfalso
      apply h
      have hd : (c :: t).dropWhile isPart = c :: t := List.dropWhile_cons_of_neg hc
      have hw : (c :: t).takeWhile isPart = [] := List.takeWhile_cons_of_neg hc
      unfold lexeme
      simp only [hd, hw]
      split <;> simp [Moment.isDate, Moment.date?, Moment.fixed?]

/-! ## Scalars -/

/-- The value that a lexeme writes. -/
def value? (cs : List Char) : Option Value :=
  if cs = "true".toList then some (.boolean true)
  else if cs = "false".toList then some (.boolean false)
  else
    match integer? cs with
    | some n => some (.integer n)
    | none =>
      match Moment.ofLexeme? cs with
      | some t => some (.moment t)
      | none => (real? cs).map .real

end Scalar

/-- A scalar. -/
def scalar : Read Value where
  run s :=
    if (Scalar.lexeme s).1 = [] then .error ⟨⟩
    else
      match Scalar.value? (Scalar.lexeme s).1 with
      | some v => .ok (v, (Scalar.lexeme s).2)
      | none => .error ⟨⟩
  shorter h := by
    split at h
    · cases h
    · next hne =>
      split at h
      · cases h; exact Scalar.lexeme_lt hne
      · cases h

end ThreatLedger.Toml
