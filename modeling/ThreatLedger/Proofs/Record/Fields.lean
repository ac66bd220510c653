/-
  The fields of a record, one by one.

  1. **Fields** — a `Field` is one of the eight with what it holds; `Field.set` puts it into a record.
  2. **Records of fields** — `ofFields` is the record that has the given fields, and the empty default
     for every other: it looks each of them up.  Fields of different names are each held once, so putting
     them into the empty record one after the other gives the same (`foldl_set`), in whichever order they
     are given; and an empty access list among them makes no difference (`ofFields_congr`).
-/
import Mathlib.Data.List.Nodup
import ThreatLedger.Record.Basic

namespace ThreatLedger.Record

/-! ## Fields -/

/-- The fields that hold a text. -/
inductive TextField
  | uuid
  | description
  | timestamp
  | sender
  | cid
  | vaultKey
  | sha256
  deriving DecidableEq

/-- The name of a field in a text. -/
def TextField.name : TextField → String
  | .uuid => "UUID"
  | .description => "Description"
  | .timestamp => "Timestamp"
  | .sender => "SenderIdentity"
  | .cid => "CID"
  | .vaultKey => "VaultKey"
  | .sha256 => "SHA256Hash"

/-- What a record has in a field. -/
def TextField.get (r : Record) : TextField → String
  | .uuid => r.uuid
  | .description => r.description
  | .timestamp => r.timestamp
  | .sender => r.sender
  | .cid => r.cid
  | .vaultKey => r.vaultKey
  | .sha256 => r.sha256

/-- The record with a text in a field. -/
def TextField.set (t : String) (r : Record) : TextField → Record
  | .uuid => { r with uuid := t }
  | .description => { r with description := t }
  | .timestamp => { r with timestamp := t }
  | .sender => { r with sender := t }
  | .cid => { r with cid := t }
  | .vaultKey => { r with vaultKey := t }
  | .sha256 => { r with sha256 := t }

/-- A field with what it holds. -/
inductive Field
  | text (k : TextField) (t : String)
  | access (roles : List String)
  deriving DecidableEq

/-- The names of all fields, in the order in which they are declared. -/
def fieldNames : List String :=
  ["UUID", "Description", "Timestamp", "SenderIdentity", "CID", "VaultKey", "SHA256Hash", "AccessList"]

/-- The name of a field in a text, be it a text itself or the access list. -/
def Field.name : Field → String
  | .text k _ => k.name
  | .access _ => "AccessList"

/-- The record with the field. -/
def Field.set (r : Record) : Field → Record
  | .text k t => k.set t r
  | .access roles => { r with access := roles }

/-! ## Records of fields -/

/-- The text that a field holds, if it is the one that is asked for. -/
def Field.text? (k : TextField) : Field → Option String
  | .text j t => if j = k then some t else none
  | .access _ => none

/-- The roles that a field holds. -/
def Field.roles? : Field → Option (List String)
  | .text _ _ => none
  | .access roles => some roles

/-- The text of a field, empty if it is not given. -/
def textOf (fs : List Field) (k : TextField) : String := (fs.findSome? (·.text? k)).getD ""

/-- The access list, empty if it is not given. -/
def rolesOf (fs : List Field) : List String := (fs.findSome? (·.roles?)).getD []

/-- The record with the given fields, and the empty default for every other. -/
def ofFields (fs : List Field) : Record where
  uuid := textOf fs .uuid
  description := textOf fs .description
  timestamp := textOf fs .timestamp
  sender := textOf fs .sender
  cid := textOf fs .cid
  vaultKey := textOf fs .vaultKey
  sha256 := textOf fs .sha256
  access := rolesOf fs

/-- A record is its seven texts and its access list, so that two records are compared field by field. -/
theorem ext_fields {r s : Record} (htext : ∀ k : TextField, k.get r = k.get s)
    (haccess : r.access = s.access) : r = s := by
  cases r
  cases s
  rw [Record.mk.injEq]
  exact ⟨htext .uuid, htext .description, htext .timestamp, htext .sender, htext .cid,
    htext .vaultKey, htext .sha256, haccess⟩

theorem get_ofFields (fs : List Field) (k : TextField) : k.get (ofFields fs) = textOf fs k := by
  cases k <;> rfl

/-- Setting a field sets its own text and leaves the six others, which is checked for each pair of
fields. -/
theorem get_set (k : TextField) (f : Field) (r : Record) :
    k.get (f.set r) = (f.text? k).getD (k.get r) := by
  cases f with
  | text j t => cases j <;> cases k <;> rfl
  | access => cases k <;> rfl

theorem access_set (f : Field) (r : Record) : (f.set r).access = f.roles?.getD r.access := by
  cases f with
  | text j t => cases j <;> rfl
  | access => rfl

section

variable {α : Type} {held : Field → Option α} {fs : List Field}

/-- At most one of the fields holds what is asked for. -/
def HeldOnce (held : Field → Option α) (fs : List Field) : Prop :=
  fs.Pairwise fun f g => held f = none ∨ held g = none

/-- What only fields of one name hold is held once, if the names differ. -/
theorem heldOnce_of_name (hfs : (fs.map Field.name).Nodup) {name : String}
    (hheld : ∀ f, held f ≠ none → f.name = name) : HeldOnce held fs := by
  refine (List.pairwise_map.mp hfs).imp fun {f g} hne => ?_
  by_cases hf : held f = none
  · exact .inl hf
  · exact .inr (by_contra fun hg => hne ((hheld f hf).trans (hheld g hg).symm))

/-- What is held once is found exactly if it is held somewhere: there is no earlier entry that could
hide it. -/
theorem findSome?_iff (h : HeldOnce held fs) {a : α} :
    fs.findSome? held = some a ↔ ∃ f ∈ fs, held f = some a := by
  induction fs with
  | nil => exact ⟨nofun, nofun⟩
  | cons f fs ih =>
    obtain ⟨hf, hfs⟩ := List.pairwise_cons.mp h
    cases hheld : held f with
    | none => simp only [List.findSome?_cons, hheld, ih hfs, List.exists_mem_cons_iff, reduceCtorEq,
        false_or]
    | some b =>
      simp only [List.findSome?_cons, hheld, List.exists_mem_cons_iff]
      refine ⟨.inl, fun h => h.resolve_right ?_⟩
      -- another field that holds something would hold it twice
      rintro ⟨g, hg, hga⟩
      rcases hf g hg with hnone | hnone
      · cases hheld.symm.trans hnone
      · cases hga.symm.trans hnone

/-- Fields one after the other leave what each of them holds.  By induction on them: a field that holds
nothing for `get` does not disturb it, and one that does is the only one. -/
theorem get_foldl (get : Record → α) (hset : ∀ f r, get (Field.set r f) = (held f).getD (get r))
    (h : HeldOnce held fs) (r : Record) :
    get (fs.foldl Field.set r) = (fs.findSome? held).getD (get r) := by
  induction fs generalizing r with
  | nil => rfl
  | cons f fs ih =>
    obtain ⟨hf, hfs⟩ := List.pairwise_cons.mp h
    rw [List.foldl_cons, ih hfs, hset]
    cases hheld : held f with
    | none => simp only [List.findSome?_cons, hheld, Option.getD_none]
    | some a =>
      -- what this field holds no later one does
      have hnone : fs.findSome? held = none := by
        refine List.findSome?_eq_none_iff.mpr fun g hg => (hf g hg).resolve_left ?_
        rw [hheld]
        nofun
      simp only [List.findSome?_cons, hheld, hnone, Option.getD_none, Option.getD_some]

/-- Where no field has the name of another one, each text is held at most once, as its name tells whose
text it is. -/
theorem heldOnce_text (hfs : (fs.map Field.name).Nodup) (k : TextField) :
    HeldOnce (Field.text? k) fs := by
  have hname : ∀ f, Field.text? k f ≠ none → f.name = k.name := by
    rintro (⟨j, t⟩ | roles) hf
    · by_cases hjk : j = k
      · exact congrArg TextField.name hjk
      · exact absurd (if_neg hjk) hf
    · exact absurd rfl hf
  exact heldOnce_of_name hfs hname

/-- Where no field has the name of another one, the access list is held at most once. -/
theorem heldOnce_roles (hfs : (fs.map Field.name).Nodup) : HeldOnce Field.roles? fs := by
  have hname : ∀ f, Field.roles? f ≠ none → f.name = "AccessList" := by
    rintro (⟨j, t⟩ | roles) hf
    · exact absurd rfl hf
    · rfl
  exact heldOnce_of_name hfs hname

/-- Fields of different names, one after the other, make the record that has them.  Each field of the
record is looked at by itself: at most one of the fields in the list sets it. -/
theorem foldl_set (hfs : (fs.map Field.name).Nodup) : fs.foldl Field.set empty = ofFields fs := by
  refine ext_fields (fun k => ?_) ?_
  · rw [get_foldl (fun r => k.get r) (get_set k) (heldOnce_text hfs k), get_ofFields]
    cases k <;> rfl
  · exact get_foldl Record.access access_set (heldOnce_roles hfs) empty

/-- A text is found for a field if and only if it is given for that one; no two fields of a list have
one name. -/
theorem findSome?_text (hfs : (fs.map Field.name).Nodup) {k : TextField} {t : String} :
    fs.findSome? (Field.text? k) = some t ↔ .text k t ∈ fs := by
  rw [findSome?_iff (heldOnce_text hfs k)]
  refine ⟨?_, fun h => ⟨_, h, if_pos rfl⟩⟩
  rintro ⟨⟨j, u⟩ | roles, hf, hheld⟩
  · simp only [Field.text?, Option.ite_none_right_eq_some, Option.some.injEq] at hheld
    obtain ⟨rfl, rfl⟩ := hheld
    exact hf
  · cases hheld

/-- An access list that is not empty is found exactly if it was given; the empty one is also what is
found where none was given. -/
theorem rolesOf_iff (hfs : (fs.map Field.name).Nodup) {roles : List String} (hroles : roles ≠ []) :
    rolesOf fs = roles ↔ .access roles ∈ fs := by
  have hmem : fs.findSome? Field.roles? = some roles ↔ .access roles ∈ fs := by
    rw [findSome?_iff (heldOnce_roles hfs)]
    refine ⟨?_, fun h => ⟨_, h, rfl⟩⟩
    rintro ⟨⟨j, u⟩ | roles, hf, hheld⟩
    · cases hheld
    · cases hheld
      exact hf
  rw [← hmem, rolesOf]
  cases fs.findSome? Field.roles? with
  | none => exact ⟨fun h => absurd h.symm hroles, nofun⟩
  | some found => rw [Option.getD_some, Option.some.injEq]

/-- In which order the fields are given does not matter, nor does an empty access list among them. -/
theorem ofFields_congr {gs : List Field} (hfs : (fs.map Field.name).Nodup)
    (hgs : (gs.map Field.name).Nodup) (h : ∀ f, f ≠ .access [] → (f ∈ fs ↔ f ∈ gs)) :
    ofFields fs = ofFields gs := by
  refine ext_fields (fun k => ?_) ?_
  · have htext : fs.findSome? (Field.text? k) = gs.findSome? (Field.text? k) :=
      Option.ext fun t => by
        rw [findSome?_text hfs, findSome?_text hgs, h (.text k t) Field.noConfusion]
    rw [get_ofFields, get_ofFields, textOf, textOf, htext]
  · -- an access list that is empty is none, so only the others are compared as fields
    have hroles : ∀ roles, roles ≠ [] → (rolesOf fs = roles ↔ rolesOf gs = roles) := by
      intro roles hne
      rw [rolesOf_iff hfs hne, rolesOf_iff hgs hne, h _ fun he => hne (Field.access.inj he)]
    show rolesOf fs = rolesOf gs
    by_cases hf : rolesOf fs = []
    · by_cases hg : rolesOf gs = []
      · rw [hf, hg]
      · exact (hroles _ hg).mpr rfl
    · exact ((hroles _ hf).mp rfl).symm

end

end ThreatLedger.Record
