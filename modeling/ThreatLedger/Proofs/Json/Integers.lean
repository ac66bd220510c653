/-
  Integers of 64 bits are read back as they are written.

  1. **Digits** — the decimal digits of a natural are taken off a text whole, and absorbed to that
     natural if it fits 64 bits, by induction on the number of digits.
  2. **Integers** — an integer that fits 64 bits, signed or unsigned, is read back, whatever ends a
     value behind it (`number_integer`).
  3. **Numbers** — every integer that is read fits 64 bits (`number_kept`).
-/
import ThreatLedger.Proofs.Json.RoundTrip
import ThreatLedger.Proofs.Results
import ThreatLedger.Proofs.Text.ByteOrder

namespace ThreatLedger.Json

/-! ## Digits -/

/-- The byte of a decimal digit. -/
def digitByte (d : Nat) : UInt8 := ascii d.digitChar

/-- The decimal digits of a natural. -/
def decimal (n : Nat) : Bytes := (Nat.toDigits 10 n).map ascii

theorem isDigit_digitByte : ∀ d < 10, Ascii.isDigit (digitByte d) := by decide

theorem digitValue_digitByte : ∀ d < 10, Ascii.digitValue (digitByte d) = d := by decide

/-- A digit is one byte as a character, so that numerals can be read byte by byte. -/
theorem utf8_digitChar : ∀ d < 10, String.utf8EncodeChar d.digitChar = [digitByte d] := by decide

theorem decimal_of_lt {n : Nat} (h : n < 10) : decimal n = [digitByte n] := by
  rw [decimal, Nat.toDigits_of_lt_base h]
  rfl

/-- **Recursion of numerals.**  All digits but the last one are those of the tenth part. -/
theorem decimal_of_le {n : Nat} (h : 10 ≤ n) :
    decimal n = decimal (n / 10) ++ [digitByte (n % 10)] := by
  rw [decimal, Nat.toDigits_of_base_le (by decide) h, List.map_append]
  rfl

/-- The text of a natural is written in its digits. -/
theorem ofText_repr (n : Nat) : Bytes.ofText n.repr = decimal n := by
  rw [Bytes.ofText_eq, Nat.repr_eq_ofList_toDigits, String.toList_ofList]
  induction n using Nat.strongRecOn with
  | ind n ih =>
    rcases Nat.lt_or_ge n 10 with h | h
    · rw [decimal_of_lt h, Nat.toDigits_of_lt_base h, List.flatMap_singleton, utf8_digitChar n h]
    · rw [decimal_of_le h, Nat.toDigits_of_base_le (by decide) h, List.flatMap_append,
        ih (n / 10) (by omega), List.flatMap_singleton, utf8_digitChar _ (by omega)]

/-- A numeral has nothing but digits, by induction on tenths. -/
theorem isDigit_of_mem_decimal {n : Nat} : ∀ b ∈ decimal n, Ascii.isDigit b := by
  induction n using Nat.strongRecOn with
  | ind n ih =>
    rcases Nat.lt_or_ge n 10 with h | h
    · rw [decimal_of_lt h]
      exact List.forall_mem_singleton.mpr (isDigit_digitByte n h)
    · rw [decimal_of_le h]
      refine List.forall_mem_append.mpr ⟨ih (n / 10) (by omega), ?_⟩
      exact List.forall_mem_singleton.mpr (isDigit_digitByte _ (by omega))

/-- The digits of a natural that is not zero do not start with a zero. -/
theorem decimal_front {n : Nat} (h : 0 < n) : ∃ d ds, decimal n = d :: ds ∧ d ≠ ascii '0' := by
  induction n using Nat.strongRecOn with
  | ind n ih =>
    rcases Nat.lt_or_ge n 10 with hlt | hge
    · have hfront : ∀ d < 10, 0 < d → digitByte d ≠ ascii '0' := by decide
      exact ⟨_, [], decimal_of_lt hlt, hfront n hlt h⟩
    · obtain ⟨d, ds, hds, hd⟩ := ih (n / 10) (by omega) (by omega)
      refine ⟨d, ds ++ [digitByte (n % 10)], ?_, hd⟩
      rw [decimal_of_le hge, hds, List.cons_append]

/-- One more digit is absorbed as long as what it makes fits; nothing has been dropped before it. -/
theorem absorb_concat {k n : Nat} {ds : Bytes} {d : UInt8} (h : absorb k ds = (n, 0))
    (hfits : n * 10 + Ascii.digitValue d ≤ greatestKept) :
    absorb k (ds ++ [d]) = (n * 10 + Ascii.digitValue d, 0) := by
  induction ds generalizing k with
  | nil =>
    cases h
    simp only [List.nil_append, absorb, if_pos hfits]
  | cons e ds ih =>
    simp only [absorb] at h
    split at h
    · next hkept =>
      simp only [List.cons_append, absorb, if_pos hkept]
      exact ih h
    · cases h

/-- All digits of a natural that fits are absorbed, by induction on tenths; every prefix of them fits as
well. -/
theorem absorb_decimal {n : Nat} (h : n ≤ greatestKept) : absorb 0 (decimal n) = (n, 0) := by
  -- by induction on the natural without its last digit, which fits as well
  induction n using Nat.strongRecOn with
  | ind n ih =>
    rcases Nat.lt_or_ge n 10 with hlt | hge
    · have hvalue := digitValue_digitByte n hlt
      have hempty : absorb 0 [] = (0, 0) := rfl
      rw [decimal_of_lt hlt, ← List.nil_append [digitByte n],
        absorb_concat hempty (by rw [hvalue]; omega), hvalue, Nat.zero_mul, Nat.zero_add]
    · have hvalue := digitValue_digitByte (n % 10) (by omega)
      have hn : n / 10 * 10 + n % 10 = n := by omega
      have hfront := ih (n / 10) (by omega) (by omega)
      rw [decimal_of_le hge, absorb_concat hfront (by rw [hvalue]; omega), hvalue, hn]

/-! ## Integers -/

/-- Where a value may end, digits write a whole number: neither a point nor an exponent follows. -/
theorem behindDigits_detached {rest : Bytes} (hrest : Detached rest) (negative : Bool)
    (significand dropped : Nat) :
    behindDigits negative significand dropped rest
      = (wholeNumber negative significand dropped).map (·, rest) := by
  have hfront := hrest.front (P := fun b => b != ascii '.' && !isExponent b) (by decide)
  cases rest with
  | nil => rfl
  | cons b rest =>
    obtain ⟨hpoint, hexponent⟩ : b ≠ ascii '.' ∧ isExponent b = false := by simpa using hfront b rfl
    simp only [behindDigits, if_neg hpoint, hexponent, Bool.false_eq_true, if_false]

/-- Digits end before a text. -/
def NoDigit (s : Bytes) : Prop := ∀ b ∈ s.head?, Ascii.isDigit b = false

theorem Detached.noDigit {rest : Bytes} (h : Detached rest) : NoDigit rest := by
  have hfront := h.front (P := fun b => !Ascii.isDigit b) (by decide)
  simpa [NoDigit] using hfront

theorem NoDigit.getD_eq_false {s : Bytes} (h : NoDigit s) :
    (s.head?.map Ascii.isDigit).getD false = false := by
  cases s with
  | nil => rfl
  | cons b s => exact h b rfl

/-- Digits are cut off exactly where they end, if what follows is none. -/
theorem spanDigits_append {ds : Bytes} (hds : ∀ b ∈ ds, Ascii.isDigit b) {rest : Bytes}
    (hrest : NoDigit rest) : spanDigits (ds ++ rest) = (ds, rest) := by
  have htake : rest.takeWhile Ascii.isDigit = [] := by
    cases rest with
    | nil => rfl
    | cons b rest => rw [List.takeWhile_cons, hrest b rfl]; rfl
  have hdrop : rest.dropWhile Ascii.isDigit = rest := by
    cases rest with
    | nil => rfl
    | cons b rest => rw [List.dropWhile_cons, hrest b rfl]; rfl
  rw [spanDigits, List.takeWhile_append_of_pos hds, List.dropWhile_append_of_pos hds, htake, hdrop,
    List.append_nil]

/-- A natural that fits is read from its digits, up to what may follow a value. -/
theorem unsigned_decimal {n : Nat} (h : n ≤ greatestKept) (negative : Bool) {rest : Bytes}
    (hrest : Detached rest) :
    unsigned negative (decimal n ++ rest) = (wholeNumber negative n 0).map (·, rest) := by
  rcases Nat.eq_zero_or_pos n with rfl | hpos
  · have hzero : decimal 0 ++ rest = ascii '0' :: rest := rfl
    rw [hzero, unsigned, if_pos rfl, hrest.noDigit.getD_eq_false, ← behindDigits_detached hrest]
    rfl
  · obtain ⟨d, ds, hds, hd⟩ := decimal_front hpos
    have hisDigit : Ascii.isDigit d := isDigit_of_mem_decimal d (hds ▸ List.mem_cons_self)
    have hspan : spanDigits (d :: (ds ++ rest)) = (decimal n, rest) := by
      rw [← spanDigits_append isDigit_of_mem_decimal hrest.noDigit, hds, List.cons_append]
    rw [hds, List.cons_append, unsigned, if_neg hd, if_pos hisDigit, hspan,
      ← behindDigits_detached hrest]
    simp only [absorb_decimal h]

/-- An integer fits 64 bits, signed or unsigned. -/
def IntegerFits (n : Int) : Prop := Int64.minValue.toInt ≤ n ∧ n ≤ greatestKept

/-- The bytes of an integer: its digits, behind a sign if it is negative. -/
theorem ofText_integer (n : Int) :
    Bytes.ofText (Number.integer n).text
      = if 0 ≤ n then decimal n.toNat else ascii '-' :: decimal (-n).toNat := by
  show Bytes.ofText n.repr = _
  rw [Int.repr_eq_if]
  split
  · exact ofText_repr _
  · rw [← ofText_repr, Bytes.ofText_eq, Bytes.ofText_eq, String.toList_append, List.flatMap_append]
    rfl

theorem decimal_cons (n : Nat) : ∃ d ds, decimal n = d :: ds ∧ Ascii.isDigit d := by
  cases hds : decimal n with
  | nil => exact absurd (List.map_eq_nil_iff.mp hds) Nat.toDigits_ne_nil
  | cons d ds => exact ⟨d, ds, rfl, isDigit_of_mem_decimal d (hds ▸ List.mem_cons_self)⟩

/-- A numeral has no sign of its own, so that it is read as what follows one. -/
theorem number_decimal (n : Nat) (rest : Bytes) :
    number.run (decimal n ++ rest) = unsigned false (decimal n ++ rest) := by
  obtain ⟨d, ds, hds, hd⟩ := decimal_cons n
  have hsign : d ≠ ascii '-' := by
    rintro rfl
    cases hd
  rw [hds, List.cons_append]
  simp only [number, if_neg hsign]

/-- **Integers.**  An integer that fits is read back from its text, with its sign: digits are absorbed
without a loss, and the sign is put back at the end. -/
theorem number_integer {n : Int} (h : IntegerFits n) {rest : Bytes} (hrest : Detached rest) :
    number.run (Bytes.ofText (Number.integer n).text ++ rest) = .ok (.integer n, rest) := by
  have hkept : greatestKept = 18446744073709551615 := rfl
  have hmin : Int64.minValue.toInt = -9223372036854775808 := rfl
  obtain ⟨hlow, hhigh⟩ := h
  rw [ofText_integer]
  split
  · obtain ⟨n, rfl⟩ := Int.eq_ofNat_of_zero_le ‹0 ≤ n›
    rw [Int.toNat_natCast, number_decimal, unsigned_decimal (by omega) false hrest]
    rfl
  · obtain ⟨m, rfl⟩ : ∃ m : Nat, n = -m := ⟨n.natAbs, by omega⟩
    -- below zero the digits are those of the absolute value, and the sign decides whether it fits
    have hwhole : wholeNumber true m 0 = .ok (.integer (-m)) := by
      rw [wholeNumber, if_neg (by simp), if_pos ⟨rfl, by omega, hlow⟩]
    have hsign : number.run (ascii '-' :: decimal m ++ rest) = unsigned true (decimal m ++ rest) :=
      rfl
    rw [Int.neg_neg, Int.toNat_natCast, hsign, unsigned_decimal (by omega) true hrest, hwhole]
    rfl

/-- What starts a number starts nothing else. -/
theorem ne_of_startsNumber {b c : UInt8} (hb : startsNumber b) (hc : startsNumber c = false) :
    b ≠ c := by
  rintro rfl
  rw [hc] at hb
  cases hb

/-- No number starts with a blank, so that none is lost where blanks are skipped. -/
theorem isBlank_of_startsNumber {b : UInt8} (hb : startsNumber b) : isBlank b = false := by
  have hspace : b ≠ ascii ' ' := ne_of_startsNumber hb rfl
  have htab : b ≠ ascii '\t' := ne_of_startsNumber hb rfl
  have hline : b ≠ ascii '\n' := ne_of_startsNumber hb rfl
  have hreturn : b ≠ ascii '\r' := ne_of_startsNumber hb rfl
  simp only [isBlank, hspace, htab, hline, hreturn, decide_false, Bool.or_false]

/-- The text of an integer starts like a number, with its sign or its first digit. -/
theorem startsNumber_integer (n : Int) :
    ∃ b s, Bytes.ofText (Number.integer n).text = b :: s ∧ startsNumber b := by
  rw [ofText_integer]
  split
  · obtain ⟨d, ds, hds, hd⟩ := decimal_cons n.toNat
    exact ⟨d, ds, hds, by rw [startsNumber, hd, Bool.or_true]⟩
  · exact ⟨_, _, rfl, rfl⟩

/-- An integer starts with a dash or a digit, and is told from the end of a list by that. -/
theorem starts_integer (n : Int) (depth : Nat) :
    Starts .list ((Value.number (.integer n)).print compact depth) := by
  obtain ⟨b, s, hbytes, hb⟩ := startsNumber_integer n
  exact ⟨b, s, hbytes, isBlank_of_startsNumber hb, ne_of_startsNumber hb rfl⟩

/-- Every signed integer of 64 bits is among the integers that are read back. -/
theorem integerFits_int64 (x : Int64) : IntegerFits x.toInt := by
  have hlow := x.le_toInt
  have hhigh := x.toInt_lt
  have hkept : greatestKept = 18446744073709551615 := rfl
  exact ⟨hlow, by omega⟩

/-- An integer of 64 bits is read back as a typed property, which checks its bounds once more. -/
theorem reads_int64 (x : Int64) : Reads int64 (.number (.integer x.toInt)) x where
  starts := starts_integer x.toInt
  run _ rest hrest := by
    obtain ⟨b, s, hbytes, hb⟩ := startsNumber_integer x.toInt
    have hrun := number_integer (integerFits_int64 x) hrest
    have hvalue : int64Of (.integer x.toInt) = .ok x := by
      have hmax : x.toInt ≤ Int64.maxValue.toInt := Int.le_of_lt_add_one x.toInt_lt
      rw [int64Of, if_pos hmax, Int64.ofInt_toInt]
    rw [hbytes, List.cons_append] at hrun
    rw [Value.print, hbytes, List.cons_append]
    simp only [int64, leading, skipBlank_cons (isBlank_of_startsNumber hb), hb, if_true, hrun, hvalue]
    rfl

/-- A property that is an integer of 64 bits is read back as it was printed, at its limits as
elsewhere. -/
theorem reads_int64Property {ρ : Type} (name : String) (get : ρ → Int64) (set : Int64 → ρ → ρ)
    (r : ρ) :
    Reads (Property.int64 name get set).read ((Property.int64 name get set).value r)
      (set (get r)) :=
  (reads_int64 (get r)).map set

/-! ## Numbers -/

/-- An integer among the numbers fits. -/
def Number.Kept : Number → Prop
  | .integer n => IntegerFits n
  | .real _ => True

/-- What is absorbed never exceeds the greatest significand, whatever digits follow; the others are
dropped. -/
theorem absorb_le {n : Nat} (h : n ≤ greatestKept) (ds : Bytes) :
    (absorb n ds).1 ≤ greatestKept := by
  induction ds generalizing n with
  | nil => exact h
  | cons d ds ih =>
    simp only [absorb]
    split
    · next hfits => exact ih hfits
    · exact h

theorem realNumber_kept {negative : Bool} {significand : Nat} {e : Int} {n : Number}
    (h : realNumber negative significand e = .ok n) : n.Kept := by
  unfold realNumber at h
  split at h
  · cases h
  · split at h <;> cases h
    trivial

/-- A whole number that is read as an integer fits; one that does not is read as a double. -/
theorem wholeNumber_kept {negative : Bool} {significand dropped : Nat} {n : Number}
    (hkept : significand ≤ greatestKept) (h : wholeNumber negative significand dropped = .ok n) :
    n.Kept := by
  have hmin : Int64.minValue.toInt = -9223372036854775808 := rfl
  unfold wholeNumber at h
  split at h
  · cases h
    exact ⟨by omega, by omega⟩
  · split at h
    · next hfits =>
      cases h
      exact ⟨hfits.2.2, by omega⟩
    · exact realNumber_kept h

/-- A number with a point or an exponent is a double, of which nothing is asked. -/
theorem scaled_kept {negative : Bool} {significand : Nat} {e : Int} {s r : Bytes} {n : Number}
    (h : scaled negative significand e s = .ok (n, r)) : n.Kept := by
  have real : ∀ {e t}, (realNumber negative significand e).map (·, t) = .ok (n, r) → n.Kept := by
    intro e t h
    obtain ⟨_, hreal, ⟨⟩⟩ := map_eq_ok.mp h
    exact realNumber_kept hreal
  unfold scaled at h
  split at h
  · exact real h
  · split at h
    · split at h
      · cases h
      · exact real h
    · exact real h

/-- Whatever follows the digits of a number, it is an integer that fits or a double. -/
theorem behindDigits_kept {negative : Bool} {significand dropped : Nat} {s r : Bytes} {n : Number}
    (hkept : significand ≤ greatestKept)
    (h : behindDigits negative significand dropped s = .ok (n, r)) : n.Kept := by
  have integer : ∀ {t}, (wholeNumber negative significand dropped).map (·, t) = .ok (n, r) →
      n.Kept := by
    intro t h
    obtain ⟨_, hwhole, ⟨⟩⟩ := map_eq_ok.mp h
    exact wholeNumber_kept hkept hwhole
  unfold behindDigits at h
  split at h
  · exact integer h
  · -- a point or an exponent makes it a double, and those are all kept
    split at h
    · unfold fraction at h
      split at h
      · cases h
      · split at h
        · exact scaled_kept h
        · cases h
    · split at h
      · exact scaled_kept h
      · exact integer h

/-- **Numbers.**  What is read as a number is an integer that fits or a double. -/
theorem unsigned_kept {negative : Bool} {s r : Bytes} {n : Number}
    (h : unsigned negative s = .ok (n, r)) : n.Kept := by
  unfold unsigned at h
  split at h
  · cases h
  · split at h
    · split at h
      · cases h
      · exact behindDigits_kept (Nat.zero_le _) h
    · split at h
      · exact behindDigits_kept (absorb_le (Nat.zero_le _) _) h
      · cases h

/-- **Numbers.**  Whatever text a number is read from, if it is read as an integer then that fits. -/
theorem number_kept {s r : Bytes} {n : Number} (h : number.run s = .ok (n, r)) : n.Kept := by
  simp only [number] at h
  split at h
  · cases h
  · split at h
    · exact unsigned_kept h
    · exact unsigned_kept h

end ThreatLedger.Json
