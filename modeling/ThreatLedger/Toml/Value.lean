/-
  TOML values.

  1. **Data** — a table remembers how it came to be, because that decides what may still be added to it;
     so does a list of tables that headers make.
  2. **Numbers** — an integer is kept whatever its size, and of any other number only whether it is too
     large for a double: `Value.fits` says that all numbers inside a value can be represented.
-/
import ThreatLedger.Binary64.Basic

namespace ThreatLedger.Toml

/-- A document that is not well formed. -/
structure Malformed where
  deriving DecidableEq, Repr

/-- How a table came to be. -/
inductive Origin
  | header
  | implied
  | dotted
  | inline
  deriving DecidableEq, Repr

/-- A number that is not an integer. -/
inductive Real
  | finite (x : Binary64)
  | tooLarge
  | special
  deriving DecidableEq, Repr

/-- A value. -/
inductive Value
  | string (s : String)
  | integer (n : Int)
  | real (x : Real)
  | boolean (b : Bool)
  | moment (text : String)
  | array (items : List Value)
  | tables (items : List Value)
  | table (origin : Origin) (members : List (String × Value))
  deriving Repr

/-- The members of a table. -/
abbrev Members := List (String × Value)

namespace Members

/-- The value under a key. -/
def get? (members : Members) (key : String) : Option Value :=
  (members.find? (·.1 = key)).map (·.2)

/-- Puts a value under a key, in the place of another one or behind all others. -/
def put (key : String) (v : Value) : Members → Members
  | [] => [(key, v)]
  | m :: ms => if m.1 = key then (key, v) :: ms else m :: put key v ms

end Members

/-! ## Numbers that can be represented -/

/-- Whether an integer fits 128 bits, signed or unsigned. -/
def integerFits (n : Int) : Bool := -(Nat.pow 2 127 : Nat) ≤ n && n < (Nat.pow 2 128 : Nat)

mutual

/-- Whether all numbers inside a value can be represented. -/
def Value.fits : Value → Bool
  | .integer n => integerFits n
  | .real x => x ≠ .tooLarge
  | .array items | .tables items => itemsFit items
  | .table _ members => membersFit members
  | .string _ | .boolean _ | .moment _ => true

/-- Whether all numbers inside the items can be represented. -/
def itemsFit : List Value → Bool
  | [] => true
  | v :: vs => v.fits && itemsFit vs

/-- Whether all numbers inside the members can be represented. -/
def membersFit : List (String × Value) → Bool
  | [] => true
  | (_, v) :: ms => v.fits && membersFit ms

end

end ThreatLedger.Toml
