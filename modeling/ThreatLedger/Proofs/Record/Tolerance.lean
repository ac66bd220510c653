/-
  A record is read from every text that its fields have.

  1. **Texts** — `ObjectText` says that a text is an object whose members are these entries: fields, and
     members of other names with any value; `ListText` says that it is a list of the first fields.  Both
     leave it open which blanks stand between the parts, and how the strings are escaped.
  2. **Entries** — each field is read by the property of its name as the change that sets it, and what
     stands under another name does nothing.
  3. **Tolerance** — every such object is read as `ofFields` of its fields, unless a name occurs twice,
     and then it is refused; every such list is read like the object of the same fields
     (`parse_tolerant`).
-/
import ThreatLedger.Ledger.Operations
import ThreatLedger.Proofs.Json.Tolerance
import ThreatLedger.Proofs.Record.Fields

namespace ThreatLedger.Record

open Json Ledger

/-! ## Texts -/

/-- How a field is written: a text as a string, and roles as a list of strings, or as `null` if there
are none. -/
inductive FieldText : Field → Bytes → Prop
  | text {k t s} : StringText t s → FieldText (.text k t) s
  | null : FieldText (.access []) nullLiteral
  | roles {roles w} {items : List Spaced} : Blank w →
    List.Forall₂ (fun role i => StringText role i.part) roles items →
    FieldText (.access roles) (container .list w (items.map Spaced.bytes))

/-- What a member of an object says: a field, or something under another name. -/
inductive Entry
  | field (f : Field)
  | other (name : String)

/-- How an entry is written. -/
inductive EntryText : Entry → Member → Prop
  | field {f m} : StringText f.name m.name.part → FieldText f m.value.part → EntryText (.field f) m
  | other {name m} : name ∉ fieldNames → StringText name m.name.part → ValueText m.value.part →
    EntryText (.other name) m

/-- The fields among the entries. -/
def fieldsOf (entries : List Entry) : List Field :=
  entries.filterMap fun
    | .field f => some f
    | .other _ => none

/-- The text is an object with these entries. -/
def ObjectText (entries : List Entry) (text : String) : Prop :=
  ∃ (s : Spaced) (w : Bytes) (members : List Member), Bytes.ofText text = s.bytes ∧ Blank w ∧
    s.part = container .object w (members.map Member.bytes) ∧
    List.Forall₂ EntryText entries members

/-- The text is a list of these fields, which are the first ones in the order of declaration. -/
def ListText (fs : List Field) (text : String) : Prop :=
  fs.map Field.name <+: fieldNames ∧
  ∃ (s : Spaced) (w : Bytes) (items : List Spaced), Bytes.ofText text = s.bytes ∧ Blank w ∧
    s.part = container .list w (items.map Spaced.bytes) ∧
    List.Forall₂ (fun f i => FieldText f i.part) fs items

/-! ## Entries -/

/-- The property that reads a text. -/
def TextField.property (k : TextField) : Property Record :=
  .text k.name (fun r => k.get r) fun t r => k.set t r

/-- The property that reads a field. -/
def Field.property : Field → Property Record
  | .text k _ => k.property
  | .access _ => accessProperty

/-- The fields that hold a text, in the order of declaration. -/
def textFields : List TextField :=
  [.uuid, .description, .timestamp, .sender, .cid, .vaultKey, .sha256]

theorem properties_eq :
    schema.properties = textFields.map TextField.property ++ [accessProperty] := rfl

/-- Each field of a record is one of the properties that the schema knows, under its own name. -/
theorem Field.property_mem (f : Field) : f.property ∈ schema.properties := by
  rw [properties_eq]
  cases f with
  | text k =>
    have hk : k ∈ textFields := by cases k <;> decide
    exact List.mem_append_left _ (List.mem_map_of_mem hk)
  | access => exact List.mem_append_right _ List.mem_cons_self

theorem Field.property_name (f : Field) : f.property.name = f.name := by cases f <;> rfl

theorem properties_names : schema.properties.map (·.name) = fieldNames := rfl

theorem names_nodup : (schema.properties.map (·.name)).Nodup := by decide

/-- A field is read as the change that sets it. -/
theorem FieldText.reads {f : Field} {s : Bytes} (h : FieldText f s) :
    ReadsText f.property.read s fun r => f.set r := by
  cases h with
  | text h => exact (readsText_text h).map _
  | null => exact (readsText_null Json.text).map _
  | roles hw h =>
    have hitems := (h.imp fun _ _ h => readsText_text h).flip
    exact (readsText_list hitems hw).orNull.map _

/-- What an entry does when it is read. -/
def Entry.step : Entry → Partial Record → Except Json.Error (Partial Record)
  | .field f => note f.name fun r => f.set r
  | .other _ => .ok

/-- **One member** is read as its entry says: a field is noted and set, and anything else is passed
over, however deep it goes. -/
theorem EntryText.readsIn {e : Entry} {m : Member} (h : EntryText e m) :
    ReadsIn .object schema.member m.bytes e.step := by
  cases h with
  | @field f m hname hvalue =>
    rw [Entry.step, ← f.property_name]
    exact readsIn_known f.property_mem names_nodup (f.property_name ▸ hname) hvalue.reads
  | other hname htext hvalue =>
    refine readsIn_unknown htext (fun f hf he => hname ?_) hvalue
    rw [← properties_names]
    exact List.mem_map.mpr ⟨f, hf, he⟩

/-- The changes that the fields among the entries make, by name. -/
def changesOf (entries : List Entry) : List (String × (Record → Record)) :=
  (fieldsOf entries).map fun f => (f.name, fun r => f.set r)

theorem changesOf_names (entries : List Entry) :
    (changesOf entries).map (·.1) = (fieldsOf entries).map Field.name := List.map_map

/-- Only the fields among the entries do something.  By induction on the entries: a foreign one is read
over, whatever its value is. -/
theorem inTurn_entries (entries : List Entry) (p : Partial Record) :
    inTurn (entries.map Entry.step) p = inTurn ((changesOf entries).map fun c => note c.1 c.2) p := by
  induction entries generalizing p with
  | nil => rfl
  | cons e entries ih =>
    cases e with
    | field f =>
      simp only [changesOf, fieldsOf, List.map_cons, inTurn_cons, List.filterMap_cons] at ih ⊢
      exact congrArg _ (funext ih)
    | other => exact ih p

/-! ## Tolerance -/

section

variable {entries : List Entry} {fs : List Field} {text : String}

/-- An object is read member by member, in turn; the first member that is refused, as a repeated name
is, ends that. -/
theorem parse_object (h : ObjectText entries text) :
    parse text = (inTurn ((changesOf entries).map fun c => note c.1 c.2) ⟨empty, []⟩).bind
      schema.finish := by
  obtain ⟨s, w, members, hbytes, hw, hs, hmembers⟩ := h
  have hitems : List.Forall₂ (ReadsIn .object schema.member) (members.map Member.bytes)
      (entries.map Entry.step) :=
    List.forall₂_map_left_iff.mpr (List.forall₂_map_right_iff.mpr
      (hmembers.imp fun _ _ h => h.readsIn).flip)
  rw [parse, decode, hbytes, parse_members hitems hw hs, inTurn_entries]
  rfl

/-- Without a repeated name an object is read as the record of its fields, whatever stands between
them. -/
theorem parse_fields (h : ObjectText entries text)
    (hnodup : ((fieldsOf entries).map Field.name).Nodup) :
    parse text = .ok (ofFields (fieldsOf entries)) := by
  obtain ⟨q, hrun, hvalue⟩ := inTurn_notes (changesOf_names entries ▸ hnodup) ⟨empty, []⟩
    fun _ _ => List.not_mem_nil
  rw [parse_object h, hrun]
  show schema.finish q = _
  rw [finish_optional (by decide), hvalue, changesOf, List.foldl_map, ← foldl_set hnodup]

/-- Where a name occurs twice, the object is refused, and the error names one that does, wherever in the
object the two are. -/
theorem parse_repeated (h : ObjectText entries text)
    (hrepeated : ¬((fieldsOf entries).map Field.name).Nodup) :
    ∃ name, 2 ≤ ((fieldsOf entries).map Field.name).count name ∧
      parse text = .error (.duplicateField name) := by
  have hnames : ¬(((changesOf entries).map (·.1)).Nodup ∧
      ∀ c ∈ changesOf entries, c.1 ∉ ([] : List String)) := by
    rw [changesOf_names]
    exact fun hnew => hrepeated hnew.1
  obtain ⟨name, hcount, hrun⟩ := inTurn_notes_repeated ⟨empty, []⟩ hnames
  rw [List.nil_append, changesOf_names] at hcount
  exact ⟨name, hcount, by rw [parse_object h, hrun]; rfl⟩

/-- A property of the name of a field is the one that reads it. -/
theorem Field.eq_property {f : Field} {g : Property Record} (hg : g ∈ schema.properties)
    (hname : g.name = f.name) : g = f.property := by
  have hfind := find?_name names_nodup f.property_mem
  rw [f.property_name, ← hname, find?_name names_nodup hg] at hfind
  exact Option.some.inj hfind

/-- Fields in the order of declaration are read by the properties in this order.  By induction on the
fields, each of which takes one property and one item. -/
theorem positional {items : List Spaced} (h : List.Forall₂ (fun f i => FieldText f i.part) fs items)
    {properties : List (Property Record)} (hproperties : ∀ g ∈ properties, g ∈ schema.properties)
    (hnames : fs.map Field.name <+: properties.map (·.name)) :
    Positional properties items (fs.map fun f r => f.set r) := by
  induction h generalizing properties with
  | nil => exact .nil
  | @cons f i fs items hf _ ih =>
    cases properties with
    -- there are no more fields than properties, since the names are a prefix of theirs
    | nil => cases List.prefix_nil.mp hnames
    | cons g properties =>
      obtain ⟨hg, hproperties⟩ := List.forall_mem_cons.mp hproperties
      obtain ⟨hname, hnames⟩ := List.cons_prefix_cons.mp hnames
      rw [Field.eq_property hg hname.symm]
      exact .cons hf.reads (ih hproperties hnames)

/-- A list gives its fields by their places, and so none of them twice. -/
theorem ListText.nodup (h : ListText fs text) : (fs.map Field.name).Nodup :=
  names_nodup.sublist h.1.sublist

/-- A list is read as the record of as many fields as it has items, in the order of the fields.  The
fields that it does not come to keep their defaults. -/
theorem parse_list (h : ListText fs text) : parse text = .ok (ofFields fs) := by
  have hnodup := h.nodup
  obtain ⟨hnames, s, w, items, hbytes, hw, hs, hitems⟩ := h
  have hpositional := positional hitems (fun _ hg => hg) (properties_names ▸ hnames)
  rw [parse, decode, hbytes, parse_items hpositional (by decide) hw hs, List.foldl_map,
    ← foldl_set hnodup]
  rfl

end

/-- **Tolerance.**  An object of fields with different names is read as the record that has these
fields, and the empty default for every other.  So nothing else counts: neither the order, the blanks and
the members of other names, nor whether an empty access list is `null`, `[]` or absent.  A list of the
first fields is read like an object of these fields.  An object in which a name occurs twice is refused. -/
theorem parse_tolerant :
    (∀ entries text, ObjectText entries text → ((fieldsOf entries).map Field.name).Nodup →
      parseRecord text = .ok (ofFields (fieldsOf entries))) ∧
    (∀ entries entries' text text', ObjectText entries text → ObjectText entries' text' →
      ((fieldsOf entries).map Field.name).Nodup → ((fieldsOf entries').map Field.name).Nodup →
      (∀ f, f ≠ .access [] → (f ∈ fieldsOf entries ↔ f ∈ fieldsOf entries')) →
      parseRecord text = parseRecord text') ∧
    (∀ fs text, ListText fs text → parseRecord text = .ok (ofFields fs) ∧
      ∀ entries object, ObjectText entries object → (fieldsOf entries).Perm fs →
        parseRecord text = parseRecord object) ∧
    ∀ entries text, ObjectText entries text → ¬((fieldsOf entries).map Field.name).Nodup →
      ∃ name, 2 ≤ ((fieldsOf entries).map Field.name).count name ∧
        parseRecord text = .error (.parse .metadata (.duplicateField name)) := by
  have hobject : ∀ entries text, ObjectText entries text →
      ((fieldsOf entries).map Field.name).Nodup →
      parseRecord text = .ok (ofFields (fieldsOf entries)) := by
    intro entries text h hnodup
    rw [parseRecord, parse_fields h hnodup]
    rfl
  refine ⟨hobject, ?same, fun fs text h => ⟨?list, ?asObject⟩, ?repeated⟩
  case same =>
    intro entries entries' text text' h h' hnodup hnodup' hsame
    rw [hobject _ _ h hnodup, hobject _ _ h' hnodup', ofFields_congr hnodup hnodup' hsame]
  case list =>
    rw [parseRecord, parse_list h]
    rfl
  case asObject =>
    intro entries object hentries hperm
    -- a list has no field twice, so the object has none either
    have hnodup := ((hperm.map Field.name).nodup_iff).mpr h.nodup
    rw [hobject _ _ hentries hnodup, parseRecord, parse_list h,
      ofFields_congr hnodup h.nodup fun f _ => hperm.mem_iff]
    rfl
  case repeated =>
    intro entries text h hrepeated
    obtain ⟨name, hcount, hparse⟩ := parse_repeated h hrepeated
    refine ⟨name, hcount, ?_⟩
    rw [parseRecord, hparse]
    rfl

/-! ## A text with everything in it -/

/-- A member without blanks. -/
def tightMember (name value : Bytes) : Member := ⟨.tight (quoted name), .tight value⟩

/-- A number with a fraction and an exponent, and an object whose only name is no Unicode text. -/
def nestedItems : List Spaced :=
  [⟨[ascii '\t'], [ascii '-', ascii '1', ascii '.', ascii '5', ascii 'e', ascii '+', ascii '3'], [],
      by decide, by decide⟩,
    .tight (container .object [] ([tightMember (Bytes.ofText "\\ud800") nullLiteral].map Member.bytes))]

/-- A member that is passed over, the access list, and a member with an escape in its name. -/
def scatteredMembers : List Member :=
  [⟨⟨[ascii ' '], quoted (Bytes.ofText "Reported"), [ascii ' '], by decide, by decide⟩,
      ⟨[ascii ' '], container .list [] (nestedItems.map Spaced.bytes), [ascii '\n'], by decide,
        by decide⟩⟩,
    tightMember (Bytes.ofText "AccessList") nullLiteral,
    tightMember (Bytes.ofText "\\u0055UID") (quoted (Bytes.ofText "a"))]

/-- The text of these members. -/
def scatteredText : String :=
  " \x7b \"Reported\" : [\t-1.5e+3,\x7b\"\\ud800\":null\x7d]\n,\"AccessList\":null,"
    ++ "\"\\u0055UID\":\"a\"\x7d"

/-- The text of these members behind another one of the same field. -/
def repeatedText : String :=
  "\x7b\"UUID\":\"b\", \"Reported\" : [\t-1.5e+3,\x7b\"\\ud800\":null\x7d]\n,\"AccessList\":null,"
    ++ "\"\\u0055UID\":\"a\"\x7d"

/-- A list with such a number and such an object is well formed, so that a reader has to pass over
it. -/
theorem nestedItems_text : ValueText (container .list [] (nestedItems.map Spaced.bytes)) := by
  have hdigit : ∀ d, Ascii.isDigit d = true → Digits [d] := fun d hd =>
    ⟨List.cons_ne_nil d [], List.forall_mem_singleton.mpr hd⟩
  have hnumber : NumberText
      (ascii '-' :: ([ascii '1'] ++ ([ascii '.', ascii '5'] ++ [ascii 'e', ascii '+', ascii '3']))) :=
    .negative (.mk (.digits (by decide) (hdigit _ rfl)) (.digits (hdigit _ rfl))
      (.signed (.inl rfl) (.inl rfl) (hdigit _ rfl)))
  have hunit : FourDigits [ascii 'd', ascii '8', ascii '0', ascii '0'] 0xd800 :=
    .mk (m := 13) (n := 8) (o := 0) (p := 0) rfl rfl rfl rfl
  -- half of a surrogate pair is no character, but a reader that passes over it need not know
  have hname : Inside (Bytes.ofText "\\ud800") := by
    have hbytes : Bytes.ofText "\\ud800"
        = ascii '\\' :: ascii 'u' :: ([ascii 'd', ascii '8', ascii '0', ascii '0'] ++ []) := by
      decide +kernel
    exact hbytes ▸ .unit hunit .nil
  have hobject : ValueText (container .object []
      ([tightMember (Bytes.ofText "\\ud800") nullLiteral].map Member.bytes)) :=
    .object blank_nil (List.forall_mem_singleton.mpr ⟨_, hname, rfl⟩)
      (List.forall_mem_singleton.mpr .null)
  exact .list blank_nil
    (List.forall_mem_cons.mpr ⟨.number hnumber, List.forall_mem_singleton.mpr hobject⟩)

/-- A name may be spelled with escapes, and is still the same name. -/
theorem escapedName_text : StringText "UUID" (quoted (Bytes.ofText "\\u0055UID")) := by
  have hunit : FourDigits [ascii '0', ascii '0', ascii '5', ascii '5'] 'U'.toNat :=
    .mk (m := 0) (n := 0) (o := 5) (p := 5) rfl rfl rfl rfl
  have hspelled : Spelled ['U', 'U', 'I', 'D'] _ :=
    .cons (.unit hunit) (spelled_plain (by decide))
  have hbytes : Bytes.ofText "\\u0055UID"
      = ascii '\\' :: ascii 'u' :: [ascii '0', ascii '0', ascii '5', ascii '5']
        ++ ['U', 'I', 'D'].flatMap String.utf8EncodeChar := by
    decide +kernel
  exact ⟨_, hbytes ▸ hspelled, rfl⟩

theorem scattered_entries : List.Forall₂ EntryText
    [.other "Reported", .field (.access []), .field (.text .uuid "a")] scatteredMembers :=
  .cons (.other (by decide) (stringText_plain (by decide +kernel)) nestedItems_text) <|
  .cons (.field (stringText_plain (by decide +kernel)) .null) <|
  .cons (.field escapedName_text (.text (stringText_plain (by decide +kernel)))) .nil

/-- The same members in the text of an object are read, the one field alone is read from a list, and one
more member of its name is refused. -/
theorem scattered_parsed :
    parseRecord scatteredText = .ok { empty with uuid := "a" } ∧
    parseRecord "[\"a\"]" = .ok { empty with uuid := "a" } ∧
    ∃ name, parseRecord repeatedText = .error (.parse .metadata (.duplicateField name)) := by
  obtain ⟨hobject, -, hlist, hrepeated⟩ := parse_tolerant
  refine ⟨hobject [.other "Reported", .field (.access []), .field (.text .uuid "a")] _ ?_ (by decide),
    (hlist [.text .uuid "a"] _ ?_).1, ?_⟩
  · exact ⟨⟨[ascii ' '], _, [], by decide, by decide⟩, [], scatteredMembers, by decide +kernel,
      blank_nil, rfl, scattered_entries⟩
  · exact ⟨by decide, .tight _, [], [.tight (quoted (Bytes.ofText "a"))], by decide +kernel, blank_nil,
      rfl, .cons (.text (stringText_plain (by decide +kernel))) .nil⟩
  · have hentries : ObjectText [.field (.text .uuid "b"), .other "Reported", .field (.access []),
        .field (.text .uuid "a")] repeatedText :=
      ⟨.tight _, [], tightMember (Bytes.ofText "UUID") (quoted (Bytes.ofText "b")) :: scatteredMembers,
        by decide +kernel, blank_nil, rfl, .cons (.field (stringText_plain (by decide +kernel))
          (.text (stringText_plain (by decide +kernel)))) scattered_entries⟩
    obtain ⟨name, -, herror⟩ := hrepeated _ _ hentries (by decide)
    exact ⟨name, herror⟩

end ThreatLedger.Record
