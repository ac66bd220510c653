/-
  Reading a JSON value as it stands.

  1. **Containers** — a list keeps its items in order; the members of an object are sorted by name, and a
     later member takes the place of an earlier one of its name.
  2. **Depth** — a value may hold containers to a depth that is given, and no deeper.
-/
import ThreatLedger.Json.Typed

namespace ThreatLedger.Json

/-- The members of an object, behind its bracket. -/
def rawMembers (item : Read Value) : Read (List (String × Value)) :=
  gather .object (fun ms =>
    string.bind fun name => colon.bind fun _ => item.map fun v => setMember name v ms) []

/-- The rest of a literal as a value. -/
def literalValue (v : Value) (ls s : Bytes) : Except Error (Value × Bytes) :=
  match literal ls s with
  | .error e => .error e
  | .ok r => .ok (v, r)

/-- A value that starts with `b`; `item` reads the items of a container, if containers may still
open. -/
def rawFrom (item : Option (Read Value)) (b : UInt8) (s : Bytes) : Except Error (Value × Bytes) :=
  if b = ascii 'n' then literalValue .null [ascii 'u', ascii 'l', ascii 'l'] s
  else if b = ascii 't' then literalValue (.bool true) [ascii 'r', ascii 'u', ascii 'e'] s
  else if b = ascii 'f' then
    literalValue (.bool false) [ascii 'a', ascii 'l', ascii 's', ascii 'e'] s
  else if startsNumber b then (number.map Value.number).run (b :: s)
  else if b = ascii '"' then (string.map Value.string).run s
  else if b = ascii '[' then
    match item with
    | none => .error .tooDeep
    | some item => ((listItems item).map Value.array).run s
  else if b = ascii '{' then
    match item with
    | none => .error .tooDeep
    | some item => ((rawMembers item).map Value.object).run s
  else .error .expectedValue

theorem literalValue_le {v w : Value} {ls s r : Bytes} (h : literalValue v ls s = .ok (w, r)) :
    r.length ≤ s.length := by
  unfold literalValue at h
  split at h
  · cases h
  · next hl =>
    cases h
    exact literal_le hl

/-- What is left behind a raw value is no longer than what came after its first byte.  The items of a
container are read by `item`, which is given. -/
theorem rawFrom_le {item : Option (Read Value)} {b : UInt8} {s r : Bytes} {v : Value}
    (h : rawFrom item b s = .ok (v, r)) : r.length ≤ s.length := by
  unfold rawFrom at h
  split at h
  · exact literalValue_le h
  · split at h
    · exact literalValue_le h
    · split at h
      · exact literalValue_le h
      · split at h
        · exact Nat.le_of_lt_succ (Reader.shorter _ h)
        · split at h
          · exact Nat.le_of_lt (Reader.shorter _ h)
          · split at h
            · split at h
              · cases h
              · exact Nat.le_of_lt (Reader.shorter _ h)
            · split at h
              · split at h
                · cases h
                · exact Nat.le_of_lt (Reader.shorter _ h)
              · cases h

/-- A value that holds containers at most `depth` deep, its own included. -/
def raw : Nat → Read Value
  | 0 => leading (rawFrom none) rawFrom_le
  | depth + 1 => leading (rawFrom (some (raw depth))) rawFrom_le

/-- How deep the containers of a text may nest. -/
def greatestDepth : Nat := 127

/-- Reads a text that holds one value. -/
def Value.parse (s : Bytes) : Except Error Value := whole (raw greatestDepth) s

end ThreatLedger.Json
