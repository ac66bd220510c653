/-
  Reading a value of an expected type.

  1. **Complaints** — where something else stands than was expected, it is read as far as is needed to
     say what it is; a fault inside it is the fault that is reported.
  2. **Types** — texts, integers of 64 bits, and lists of a type.
-/
import ThreatLedger.Json.Text
import ThreatLedger.Json.Number

namespace ThreatLedger.Json

/-! ## The first byte decides -/

/-- Reads behind blanks as `f` says for the first byte and the text behind it. -/
def leading {α : Type} (f : UInt8 → Bytes → Except Error (α × Bytes))
    (hf : ∀ {b r a t}, f b r = .ok (a, t) → t.length ≤ r.length) : Read α where
  run s :=
    match skipBlank s with
    | [] => .error (.unfinished .value)
    | b :: r => f b r
  shorter {s _ _} h := by
    split at h
    · cases h
    · next hb => exact Nat.lt_of_le_of_lt (hf h) (skipBlank_cons_lt hb)

/-- What stands where `b` starts a value. -/
def found (b : UInt8) (s : Bytes) : Except Error Found :=
  if b = ascii 'n' then (literal [ascii 'u', ascii 'l', ascii 'l'] s).map fun _ => .null
  else if b = ascii 't' then
    (literal [ascii 'r', ascii 'u', ascii 'e'] s).map fun _ => .bool true
  else if b = ascii 'f' then
    (literal [ascii 'a', ascii 'l', ascii 's', ascii 'e'] s).map fun _ => .bool false
  else if startsNumber b then (number.run (b :: s)).map fun x => .number x.1
  else if b = ascii '"' then (string.run s).map fun x => .string x.1
  else if b = ascii '[' then .ok (.container .list)
  else if b = ascii '{' then .ok (.container .object)
  else .error .expectedValue

/-- The complaint about a value of another type than was expected. -/
def wrongType (expected : String) (b : UInt8) (s : Bytes) : Error :=
  match found b s with
  | .ok f => .wrongType f expected
  | .error e => e

/-! ## Types -/

/-- A text. -/
def text : Read String :=
  leading (fun b r => if b = ascii '"' then string.run r else .error (wrongType "a string" b r))
    (by
      intro b r a t h
      split at h
      · exact Nat.le_of_lt (string.shorter h)
      · cases h)

/-- The words for an integer of 64 bits. -/
def int64Name : String := "i64"

/-- An integer of 64 bits, given the number that was read. -/
def int64Of (n : Number) : Except Error Int64 :=
  match n with
  | .integer n =>
    if n ≤ Int64.maxValue.toInt then .ok (Int64.ofInt n) else .error (.outOfRange n int64Name)
  | .real x => .error (.wrongType (.number (.real x)) int64Name)

/-- An integer of 64 bits. -/
def int64 : Read Int64 :=
  leading (fun b r =>
    if startsNumber b then
      match number.run (b :: r) with
      | .error e => .error e
      | .ok (n, t) => (int64Of n).map (·, t)
    else .error (wrongType int64Name b r))
    (by
      intro b r a t h
      split at h
      · split at h
        · cases h
        · next hn =>
          rw [map_rest (f := id) h]
          exact Nat.le_of_lt_succ (number.shorter hn)
      · cases h)

/-- The items of a list, behind its bracket. -/
def listItems {α : Type} (item : Read α) : Read (List α) :=
  (gather .list (fun acc => item.map (· :: acc)) []).map List.reverse

/-- A list. -/
def list {α : Type} (item : Read α) : Read (List α) :=
  leading (fun b r =>
    if b = ascii '[' then (listItems item).run r else .error (wrongType "a sequence" b r))
    (by
      intro b r a t h
      split at h
      · exact Nat.le_of_lt ((listItems item).shorter h)
      · cases h)

/-- A list, or `null` for the empty list. -/
def listOrNull {α : Type} (item : Read α) : Read (List α) :=
  leading (fun b r =>
    if b = ascii 'n' then (literal [ascii 'u', ascii 'l', ascii 'l'] r).map ([], ·)
    else (list item).run (b :: r))
    (by
      intro b r a t h
      split at h
      · cases hl : literal [ascii 'u', ascii 'l', ascii 'l'] r with
        | error e =>
          rw [hl] at h
          cases h
        | ok u =>
          rw [hl] at h
          cases h
          exact literal_le hl
      · exact Nat.le_of_lt_succ ((list item).shorter h))

/-! ## Whole texts -/

/-- Reads a text from end to end: nothing but blanks may follow the value. -/
def whole {α : Type} (p : Read α) (s : Bytes) : Except Error α :=
  match p.run s with
  | .error e => .error e
  | .ok (a, r) => if (skipBlank r).isEmpty then .ok a else .error .trailingCharacters

end ThreatLedger.Json
