/-
  Double-precision numbers, exactly.

  1. **Data** — a finite double is a sign, a significand below `2 ^ 53` and an exponent; its size is
     `significand * 2 ^ exponent`.  Two doubles with the same fields are the same number.
  2. **Rounding** — `ofRatio` takes the double nearest to a quotient of naturals, an exact half to the
     even significand, and nothing when the quotient is too large for a finite double.
  3. **Arithmetic** — product and quotient are rounded once, from the exact value.

  All of it is arithmetic on naturals, so nothing here depends on a machine's floating point.
-/
namespace ThreatLedger

/-- A finite double: `significand * 2 ^ exponent`, with a sign that zero has too. -/
structure Binary64 where
  negative : Bool
  significand : Nat
  exponent : Int
  deriving DecidableEq, Repr, Inhabited

namespace Binary64

/-- The least exponent of a double. -/
def leastExponent : Int := -1074

/-- The greatest exponent of a finite double. -/
def greatestExponent : Int := 971

/-- Zero without a minus sign. -/
def zero : Binary64 := ⟨false, 0, leastExponent⟩

/-- The same number with the other sign. -/
def neg (x : Binary64) : Binary64 := { x with negative := !x.negative }

/-- Zero of either sign. -/
def isZero (x : Binary64) : Bool := x.significand == 0

/-! ## Rounding -/

/-- `num / den` in units of `2 ^ e`, as a fraction. -/
def inUnits (num den : Nat) (e : Int) : Nat × Nat :=
  if 0 ≤ e then (num, den * Nat.pow 2 e.toNat) else (num * Nat.pow 2 (-e).toNat, den)

/-- The natural nearest to `num / den`; an exact half goes to the even one. -/
def nearestEven (num den : Nat) : Nat :=
  let q := num / den
  let r := num % den
  if 2 * r < den then q
  else if den < 2 * r then q + 1
  else if q % 2 = 0 then q else q + 1

/-- The exponent at which `num / den` has a significand of 53 binary digits, or the least one. -/
def exponentFor (num den : Nat) : Int :=
  let low : Int := (num.log2 : Int) - den.log2 - 53
  let scaled := inUnits num den low
  max (if scaled.1 < scaled.2 * Nat.pow 2 53 then low else low + 1) leastExponent

/-- The double nearest to `num / den`, if that is finite. -/
def ofRatio (num den : Nat) : Option Binary64 :=
  if num = 0 then some zero
  else
    let e := exponentFor num den
    let scaled := inUnits num den e
    let m := nearestEven scaled.1 scaled.2
    let x : Binary64 := if m = Nat.pow 2 53 then ⟨false, Nat.pow 2 52, e + 1⟩ else ⟨false, m, e⟩
    if x.exponent ≤ greatestExponent then some x else none

/-- The double nearest to a natural, if that is finite. -/
def ofNat (n : Nat) : Option Binary64 := ofRatio n 1

/-! ## Arithmetic on sizes -/

/-- The size of a double as a fraction. -/
def ratio (x : Binary64) : Nat × Nat :=
  if 0 ≤ x.exponent then (x.significand * Nat.pow 2 x.exponent.toNat, 1)
  else (x.significand, Nat.pow 2 (-x.exponent).toNat)

/-- The product of two sizes. -/
def mul (x y : Binary64) : Option Binary64 :=
  ofRatio (x.ratio.1 * y.ratio.1) (x.ratio.2 * y.ratio.2)

/-- The quotient of two sizes, the second not zero. -/
def div (x y : Binary64) : Option Binary64 :=
  ofRatio (x.ratio.1 * y.ratio.2) (x.ratio.2 * y.ratio.1)

end Binary64
end ThreatLedger
