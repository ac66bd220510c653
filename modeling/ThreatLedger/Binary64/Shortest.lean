/-
  The shortest decimal of a double, and how decimals are laid out.

  1. **Interval** — the reals that round to a double lie half a unit around it (a quarter below a power
     of two), the ends included when its significand is even.
  2. **Grid** — on the grid of multiples of `10 ^ p` only the two neighbours of the double matter: if a
     point of the grid lies in the interval, then so does one of them.  `shortest` takes the coarsest grid
     with a hit and of two hits the nearer, an exact tie to the even digit.
  3. **Layout** — `DecimalLayout` says which magnitudes are written positionally; `layout` writes digits
     that way, or as a mantissa and an exponent.
-/
import ThreatLedger.Binary64.Basic

namespace ThreatLedger
namespace Binary64

/-! ## The interval and the grid -/

/-- Four times the significand, and the ends of the interval in the same quarter units. -/
structure Interval where
  low : Nat
  mid : Nat
  high : Nat
  closed : Bool

/-- The reals that round to a double. -/
def interval (x : Binary64) : Interval where
  low := if x.significand = Nat.pow 2 52 ∧ leastExponent < x.exponent then 4 * x.significand - 1
    else 4 * x.significand - 2
  mid := 4 * x.significand
  high := 4 * x.significand + 2
  closed := x.significand % 2 = 0

/-- Whether `c / d` lies in the interval, which is given in units of `a / d`. -/
def Interval.contains (i : Interval) (a c : Nat) : Bool :=
  if i.closed then i.low * a ≤ c && c ≤ i.high * a else i.low * a < c && c < i.high * a

/-- The multiple of `10 ^ p` to write a double as, if one of its two neighbours rounds to it. -/
def onGrid (x : Binary64) (p : Int) : Option Nat :=
  let i := x.interval
  let e := x.exponent - 2
  let a := Nat.pow 2 e.toNat * Nat.pow 10 (-p).toNat
  let d := Nat.pow 2 (-e).toNat * Nat.pow 10 p.toNat
  let below := i.mid * a / d
  let hitBelow := i.contains a (below * d)
  let hitAbove := i.contains a ((below + 1) * d)
  if hitBelow && hitAbove then
    let up := (below + 1) * d - i.mid * a
    let down := i.mid * a - below * d
    if down < up then some below
    else if up < down then some (below + 1)
    else if below % 2 = 0 then some below else some (below + 1)
  else if hitBelow then some below
  else if hitAbove then some (below + 1)
  else none

/-- Walks to finer and finer grids until one has a hit. -/
def searchGrid (x : Binary64) : Nat → Int → Nat × Int
  | 0, p => (0, p)
  | n + 1, p =>
    match x.onGrid p with
    | some c => (c, p)
    | none => searchGrid x n (p - 1)

/-- The shortest decimal `c * 10 ^ p` that rounds to a double other than zero.  A double has at most
seventeen digits, so the grids from just above its size downward contain a hit. -/
def shortest (x : Binary64) : Nat × Int :=
  searchGrid x 24 (((x.significand.log2 : Int) + x.exponent + 1) * 30103 / 100000 + 2)

/-! ## Layout -/

/-- Which decimals are written positionally, and the sign of a positive exponent. -/
structure DecimalLayout where
  leastPositional : Int
  greatestPositional : Int
  positiveSign : String

/-- Zeros in a row. -/
def zeros (n : Nat) : String := String.ofList (List.replicate n '0')

/-- Writes `digits * 10 ^ p`: positionally with at least one place, or with an exponent. -/
def DecimalLayout.write (layout : DecimalLayout) (digits : String) (p : Int) : String :=
  let e := p + digits.length - 1
  if e < layout.leastPositional ∨ layout.greatestPositional < e then
    let mantissa :=
      match digits.toList with
      | [] => ""
      | [c] => c.toString
      | c :: cs => c.toString ++ "." ++ String.ofList cs
    mantissa ++ "e" ++ (if 0 ≤ e then layout.positiveSign else "-") ++ toString e.natAbs
  else if 0 ≤ p then digits ++ zeros p.toNat ++ ".0"
  else if 0 ≤ e then
    String.ofList (digits.toList.take (e + 1).toNat) ++ "."
      ++ String.ofList (digits.toList.drop (e + 1).toNat)
  else "0." ++ zeros (-e - 1).toNat ++ digits

/-- The shortest decimal of a double in a layout. -/
def toDecimal (layout : DecimalLayout) (x : Binary64) : String :=
  (if x.negative then "-" else "")
    ++ if x.isZero then "0.0" else layout.write (toString x.shortest.1) x.shortest.2

end Binary64
end ThreatLedger
