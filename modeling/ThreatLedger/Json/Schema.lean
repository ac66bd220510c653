/-
  Structures as JSON objects: one description for reading and for writing.

  1. **Properties** — a `Property` has a name, a reader that gives the change a value makes to the
     structure, and the value to write for it.
  2. **Reading** — a structure is read from an object, whose members may stand in any order, or from a
     list with the properties in order.  A property that is absent keeps its value in `empty` unless it is
     required.  Members of other names are passed over; a property may not occur twice.
  3. **Writing** — an object with all the properties in order.
-/
import ThreatLedger.Json.Pass
import ThreatLedger.Json.Typed
import ThreatLedger.Json.Printer

namespace ThreatLedger.Json

/-- A property of a structure. -/
structure Property (ρ : Type) where
  name : String
  read : Read (ρ → ρ)
  value : ρ → Value
  required : Bool

/-- A structure: how a message names it, its value when all properties are absent, and its properties. -/
structure Schema (ρ : Type) where
  title : String
  empty : ρ
  properties : List (Property ρ)

variable {ρ : Type}

/-! ## Kinds of properties -/

/-- A property that holds a text. -/
def Property.text (name : String) (get : ρ → String) (set : String → ρ → ρ) : Property ρ :=
  ⟨name, Json.text.map set, fun r => .string (get r), false⟩

/-- A property that holds an integer of 64 bits. -/
def Property.int64 (name : String) (get : ρ → Int64) (set : Int64 → ρ → ρ) : Property ρ :=
  ⟨name, Json.int64.map set, fun r => .number (.integer (get r).toInt), false⟩

/-- A property that holds a list; `item` reads an item and `value` writes it. -/
def Property.list {α : Type} (name : String) (item : Read α) (value : α → Value) (get : ρ → List α)
    (set : List α → ρ → ρ) : Property ρ :=
  ⟨name, (Json.list item).map set, fun r => .array ((get r).map value), false⟩

/-- The same property, which may not be absent. -/
def Property.require (f : Property ρ) : Property ρ := { f with required := true }

/-! ## Reading -/

/-- What has been read of an object: the structure, and the properties that occurred. -/
structure Partial (ρ : Type) where
  value : ρ
  seen : List String

/-- One member of an object, behind the quote that opens its name. -/
def Schema.member (schema : Schema ρ) (p : Partial ρ) : Read (Partial ρ) :=
  string.bind fun name =>
    match schema.properties.find? (·.name = name) with
    | none => colon.bind fun _ => passValue.map fun _ => p
    | some f =>
      if name ∈ p.seen then Reader.fail (.duplicateField name)
      else colon.bind fun _ => f.read.map fun set => ⟨set p.value, name :: p.seen⟩

/-- The structure that an object gives, if no required property is absent. -/
def Schema.finish (schema : Schema ρ) (p : Partial ρ) : Except Error ρ :=
  match schema.properties.find? fun f => f.required && !p.seen.contains f.name with
  | some f => .error (.missingField f.name)
  | none => .ok p.value

/-- A structure from the members of an object, behind its bracket. -/
def Schema.fromObject (schema : Schema ρ) : Read ρ where
  run s :=
    match (gather .object schema.member ⟨schema.empty, []⟩).run s with
    | .error e => .error e
    | .ok (p, r) => (schema.finish p).map (·, r)
  shorter h := by
    split at h
    · cases h
    · next hg =>
      rw [map_rest (f := id) h]
      exact Reader.shorter _ hg

/-- The bracket behind the last property of a list. -/
def closeList : Read Unit where
  run s :=
    match skipBlank s with
    | [] => .error (.unfinished (.frame .list))
    | b :: r =>
      if b = Frame.list.close then .ok ((), r)
      else if b = ascii ',' ∧ (skipBlank r).head? = some Frame.list.close then .error .trailingComma
      else .error .trailingCharacters
  shorter {s _ _} h := by
    split at h
    · cases h
    · next hb =>
      split at h
      · cases h
        exact skipBlank_cons_lt hb
      · split at h <;> cases h

/-- How many properties a structure has, in words. -/
def Schema.sizeText (schema : Schema ρ) : String :=
  schema.title ++ " with " ++ toString schema.properties.length
    ++ (if schema.properties.length = 1 then " element" else " elements")

/-- A structure from the items of a list, behind its bracket: `properties` are still to be read. -/
def Schema.fromItems (schema : Schema ρ) : List (Property ρ) → Bool → ρ → Read ρ
  | [], _, value => closeList.map fun _ => value
  | f :: properties, first, value =>
    { run := fun s =>
        match Frame.list.next first s with
        | .error e => .error e
        | .ok (.done r) =>
          match (f :: properties).findIdx? (·.required) with
          | some i =>
            .error (.tooShort (schema.properties.length - (f :: properties).length + i) schema.sizeText)
          | none => .ok (value, r)
        | .ok (.item r) =>
          match f.read.run r with
          | .error e => .error e
          | .ok (set, r) => (schema.fromItems properties false (set value)).run r
      shorter := by
        intro s a r h
        split at h
        · cases h
        · next hd =>
          split at h
          · cases h
          · cases h
            exact Frame.next_done_lt hd
        · next hi =>
          split at h
          · cases h
          · next hx =>
            exact Nat.lt_trans (Reader.shorter _ h)
              (Nat.lt_of_lt_of_le (f.read.shorter hx) (Frame.next_le hi)) }

/-- A structure. -/
def Schema.read (schema : Schema ρ) : Read ρ :=
  leading (fun b r =>
    if b = ascii '{' then schema.fromObject.run r
    else if b = ascii '[' then (schema.fromItems schema.properties true schema.empty).run r
    else .error (wrongType schema.title b r))
    (by
      intro b r a t h
      split at h
      · exact Nat.le_of_lt (Reader.shorter _ h)
      · split at h
        · exact Nat.le_of_lt (Reader.shorter _ h)
        · cases h)

/-- Reads a text that holds one structure. -/
def Schema.parse (schema : Schema ρ) (s : Bytes) : Except Error ρ := whole schema.read s

/-! ## Writing -/

/-- A structure as an object. -/
def Schema.value (schema : Schema ρ) (r : ρ) : Value :=
  .object (schema.properties.map fun f => (f.name, f.value r))

/-- The compact text of a structure. -/
def Schema.encode (schema : Schema ρ) (r : ρ) : Bytes := (schema.value r).encode

end ThreatLedger.Json
