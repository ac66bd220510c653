/-
  What a view of one kind reads where objects of all kinds are stored.

  1. **Tags** — every object starts with its type tag and its id, and all kinds have these.  So whatever
     kind it is read as, it keeps them (`tagged_of_parse`).
  2. **Other kinds** — as an object of another kind, an object is read with the properties that the kinds
     share, and all others are empty (`parse_seenAs`): no kind requires a property, and members of other
     names are passed over.
  3. **Runs** — under an id there is the object that was accepted with it, so a view reads an object of
     its own kind only where its own create has stored one (`views_read`).

  All views have the keys in common, and a view reads whatever is stored under an id.
-/
import Mathlib.Tactic.FinCases
import ThreatLedger.Proofs.Json.Foreign
import ThreatLedger.Proofs.Stix.Contract

namespace ThreatLedger.Stix

open Json

/-! ## Tags -/

/-- The tag and the id at the front of an object are those of whatever is read from it, if the structure
has a property for each of them and no other one changes them. -/
theorem tagged_of_front {ρ : Type} {schema : Schema ρ} {tag ident : ρ → String}
    {setTag setIdent : String → ρ → ρ} {gs : List (Property ρ)} {a b : String}
    {ms : List (String × Value)} {x : ρ}
    (h : schema.parse (Value.object (("type", .string a) :: ("id", .string b) :: ms)).encode
      = .ok x)
    (hproperties : schema.properties = [.text "type" tag setTag, .text "id" ident setIdent] ++ gs)
    (hnodup : (schema.properties.map (·.name)).Nodup)
    (hset : ∀ a b x, tag (setIdent b (setTag a x)) = a ∧ ident (setIdent b (setTag a x)) = b)
    (hkeeps : ∀ g ∈ gs, Gives g.read fun change => ∀ x,
      tag (change x) = tag x ∧ ident (change x) = ident x) : tag x = a ∧ ident x = b := by
  -- any structure with that tag and id is written with these two members at the front
  let r := setIdent b (setTag a schema.empty)
  obtain ⟨htag, hident⟩ := hset a b schema.empty
  have hback : ReadsBack r [.text "type" tag setTag, .text "id" ident setIdent] _ :=
    .cons (reads_textProperty ..) <| .cons (reads_textProperty ..) .nil
  have hmembers : membersOf r [.text "type" tag setTag, .text "id" ident setIdent] ++ ms
      = ("type", .string a) :: ("id", .string b) :: ms := by
    show ("type", Value.string (tag r)) :: ("id", Value.string (ident r)) :: ms = _
    rw [htag, hident]
  rw [← hmembers] at h
  refine parse_keeps_front (Q := fun x => tag x = a ∧ ident x = b) hproperties hnodup hback ?_ ?_ h
  · show tag (setIdent (ident r) (setTag (tag r) schema.empty)) = a ∧ _
    rw [htag, hident]
    exact ⟨htag, hident⟩
  · intro g hg s change t hrun x hx
    obtain ⟨htag, hident⟩ := hkeeps g hg s change t hrun x
    exact ⟨htag.trans hx.1, hident.trans hx.2⟩

/-- Whatever kind an object is read as, its tag and its id are read.  These two are among the properties
that all kinds share. -/
theorem Object.tagged_of_parse {kind : Kind} {x o : Object} (h : parse kind x.encode = .ok o) :
    o.typeTag = x.typeTag ∧ o.id = x.id := by
  obtain ⟨ms, hvalue⟩ : ∃ ms,
      x.value = .object (("type", .string x.typeTag) :: ("id", .string x.id) :: ms) := by
    cases x <;> exact ⟨_, rfl⟩
  rw [encode, hvalue] at h
  -- in each kind no property but these two sets the tag or the id
  cases kind
  all_goals
    obtain ⟨read, hread, rfl⟩ := map_eq_ok.mp h
    show read.typeTag = x.typeTag ∧ read.id = x.id
    refine tagged_of_front hread rfl (by decide) (fun _ _ _ => ⟨rfl, rfl⟩) fun g hg => ?_
    fin_cases hg <;> exact gives_map (gives_anything _) fun _ _ _ => ⟨rfl, rfl⟩

/-- Kinds are told apart by their tags. -/
theorem Kind.name_injective : Function.Injective name := by
  intro a b h
  cases a <;> cases b <;> first | rfl | exact absurd h (by decide)

/-! ## Other kinds -/

/-- The properties that the kinds share; those that a bundle does not have are empty. -/
structure Head where
  typeTag : String
  id : String
  specVersion : String
  created : String
  modified : String

namespace Head

/-- The indicator that has these properties, and defaults for the ones of its own. -/
def indicator (h : Head) : Indicator :=
  { Indicator.schema.empty with
    typeTag := h.typeTag, id := h.id, specVersion := h.specVersion
    created := h.created, modified := h.modified }

/-- The relationship that has these properties, and defaults for the ones of its own. -/
def relationship (h : Head) : Relationship :=
  { Relationship.schema.empty with
    typeTag := h.typeTag, id := h.id, specVersion := h.specVersion
    created := h.created, modified := h.modified }

/-- The sighting that has these properties, and defaults for the ones of its own. -/
def sighting (h : Head) : Sighting :=
  { Sighting.schema.empty with
    typeTag := h.typeTag, id := h.id, specVersion := h.specVersion
    created := h.created, modified := h.modified }

/-- The bundle that has these properties and no objects.  Bundles have no times, so those are left
out. -/
def bundle (h : Head) : Bundle :=
  { Bundle.schema.empty with typeTag := h.typeTag, id := h.id, specVersion := h.specVersion }

/-- The object of a kind that has these properties and no others. -/
def object (h : Head) : Kind → Object
  | .indicator => .indicator h.indicator
  | .relationship => .relationship h.relationship
  | .sighting => .sighting h.sighting
  | .bundle => .bundle h.bundle

end Head

/-- What an object shares with other kinds. -/
def Object.head : Object → Head
  | .indicator o => ⟨o.typeTag, o.id, o.specVersion, o.created, o.modified⟩
  | .relationship o => ⟨o.typeTag, o.id, o.specVersion, o.created, o.modified⟩
  | .sighting o => ⟨o.typeTag, o.id, o.specVersion, o.created, o.modified⟩
  | .bundle o => ⟨o.typeTag, o.id, o.specVersion, "", ""⟩

/-- What is read where an object is read as one of a kind. -/
def Object.seenAs (x : Object) (kind : Kind) : Object :=
  if x.kind = kind then x else x.head.object kind

/-! ### Kinds as a family -/

/-- What the objects of a kind are made of. -/
def Kind.Data : Kind → Type
  | .indicator => Indicator
  | .relationship => Relationship
  | .sighting => Sighting
  | .bundle => Bundle

/-- The structure of the objects of a kind. -/
def Kind.schema : (kind : Kind) → Schema kind.Data
  | .indicator => Indicator.schema
  | .relationship => Relationship.schema
  | .sighting => Sighting.schema
  | .bundle => Bundle.schema

/-- How many of the shared properties a kind has; they stand at its front. -/
def Kind.shared : Kind → Nat
  | .indicator | .relationship | .sighting => 5
  | .bundle => 3

/-- Behind what they share, two kinds have no property in common: the rest of a stored object is foreign
to every other view. -/
theorem Kind.unknown {kind other : Kind} (h : other ≠ kind) :
    ∀ g ∈ other.schema.properties.drop (min other.shared kind.shared),
      ∀ f ∈ kind.schema.properties, f.name ≠ g.name := by
  cases other <;> cases kind <;> first | exact absurd rfl h | decide

/-- What an object is made of. -/
def Object.data : (x : Object) → x.kind.Data
  | .indicator o => o
  | .relationship o => o
  | .sighting o => o
  | .bundle o => o

namespace Head

/-- What the object of a kind is made of that has these properties and no others. -/
def data (h : Head) : (kind : Kind) → kind.Data
  | .indicator => h.indicator
  | .relationship => h.relationship
  | .sighting => h.sighting
  | .bundle => h.bundle

/-- What reading these properties changes, one after the other. -/
def changes (h : Head) : (kind : Kind) → List (kind.Data → kind.Data)
  | .indicator =>
    [fun x : Indicator => { x with typeTag := h.typeTag }, fun x : Indicator => { x with id := h.id },
      fun x : Indicator => { x with specVersion := h.specVersion },
      fun x : Indicator => { x with created := h.created },
      fun x : Indicator => { x with modified := h.modified }]
  | .relationship =>
    [fun x : Relationship => { x with typeTag := h.typeTag },
      fun x : Relationship => { x with id := h.id },
      fun x : Relationship => { x with specVersion := h.specVersion },
      fun x : Relationship => { x with created := h.created },
      fun x : Relationship => { x with modified := h.modified }]
  | .sighting =>
    [fun x : Sighting => { x with typeTag := h.typeTag }, fun x : Sighting => { x with id := h.id },
      fun x : Sighting => { x with specVersion := h.specVersion },
      fun x : Sighting => { x with created := h.created },
      fun x : Sighting => { x with modified := h.modified }]
  | .bundle =>
    [fun x : Bundle => { x with typeTag := h.typeTag }, fun x : Bundle => { x with id := h.id },
      fun x : Bundle => { x with specVersion := h.specVersion }]

/-- In every kind the shared properties are texts, and each is read back by itself. -/
theorem reads (h : Head) (kind : Kind) :
    ReadsBack (h.data kind) (kind.schema.properties.take kind.shared) (h.changes kind) := by
  cases kind with
  | indicator | relationship | sighting =>
    exact .cons (reads_textProperty ..) <| .cons (reads_textProperty ..) <|
      .cons (reads_textProperty ..) <| .cons (reads_textProperty ..) <|
      .cons (reads_textProperty ..) .nil
  | bundle =>
    exact .cons (reads_textProperty ..) <| .cons (reads_textProperty ..) <|
      .cons (reads_textProperty ..) .nil

end Head

/-- An object of another kind is read with what the kinds share.  Both have it at their front, as far as
the one goes that has less of it; behind it, neither knows any property of the other. -/
theorem Object.parse_head {x : Object} {kind : Kind} (hkind : x.kind ≠ kind) (h : x.Sound) :
    kind.schema.parse x.encode = .ok (x.head.data kind) := by
  -- the shorter of the two fronts is what they share
  let n := min x.kind.shared kind.shared
  have hback := (x.head.reads kind).fewer (Nat.min_le_right x.kind.shared kind.shared)
  have hshared : membersOf (x.head.data kind) (kind.schema.properties.take n)
      = membersOf x.data (x.kind.schema.properties.take n) := by
    cases x <;> cases kind <;> rfl
  have hnodup : (kind.schema.properties.map (·.name)).Nodup := by cases kind <;> decide
  have hoptional : ∀ f ∈ kind.schema.properties, f.required = false := by cases kind <;> decide
  have hunknown := Kind.unknown hkind
  have hwhole : (x.kind.schema.value x.data).Whole := by
    cases x <;> exact (Object.fits h).whole
  have hencode : x.encode = x.kind.schema.encode x.data := by cases x <;> rfl
  -- what is behind the front is foreign to the view, and passed over
  have hread := parse_other x.kind.schema x.data n hback hshared hnodup hoptional hunknown hwhole
  have hdata : ((x.head.changes kind).take n).foldl (fun x change => change x) kind.schema.empty
      = x.head.data kind := by
    cases x <;> cases kind <;> rfl
  rw [hencode, hread, hdata]

/-- **Other kinds.**  A sound object is read as an object of any kind, with the properties that the two
kinds share, and defaults for the rest.  The tag is one of those that are shared, and no view looks at
it. -/
theorem Object.parse_seenAs {x : Object} (h : x.Sound) (kind : Kind) :
    parse kind x.encode = .ok (x.seenAs kind) := by
  unfold seenAs
  split
  · next hkind => exact hkind ▸ parse_encode h
  · next hkind =>
    cases kind <;> exact congrArg (Except.map _) (parse_head hkind h)

/-- A sound object is read back as it was, so that what is filled stays filled. -/
theorem Object.filled_of_sound {x o : Object} (h : parse x.kind x.encode = .ok o) (hx : x.Sound)
    (hfilled : ∀ property ∈ x.required, property.2 ≠ "") :
    ∀ property ∈ o.required, property.2 ≠ "" := by
  cases (parse_encode hx).symm.trans h
  exact hfilled

/-- Read as one of its own kind, an object keeps its required properties filled. -/
theorem Object.filled_of_parse {x o : Object} (h : parse x.kind x.encode = .ok o)
    (hfilled : ∀ property ∈ x.required, property.2 ≠ "") :
    ∀ property ∈ o.required, property.2 ≠ "" := by
  cases x with
  | indicator x | relationship x | sighting x => exact filled_of_sound h trivial hfilled
  | bundle x =>
    -- its raw objects may be read as others, but all that a bundle requires is its id
    obtain ⟨-, hid⟩ := tagged_of_parse h
    have hx : x.id ≠ "" := hfilled ("id", x.id) List.mem_cons_self
    obtain ⟨o, -, rfl⟩ := map_eq_ok.mp h
    have ho : o.id = x.id := hid
    intro property hproperty hempty
    obtain rfl := List.mem_singleton.mp hproperty
    exact hx (ho.symm.trans hempty)

/-! ## Runs -/

namespace Catalog

/-- Under each id is the object that was accepted with it, and nothing else. -/
structure Files (m : KeyMap Bytes) (objects : List Object) : Prop where
  entries : ∀ id value, m.get? id = some value ↔ ∃ x ∈ objects, x.id = id ∧ x.encode = value
  submitted : ∀ x ∈ objects, ∃ text, Submits x.kind text x

theorem files_empty : Files .empty [] where
  entries id value := by
    refine iff_of_false (by rintro ⟨⟩) ?_
    rintro ⟨x, hx, -⟩
    exact List.not_mem_nil hx
  submitted _ hx := absurd hx List.not_mem_nil

section

variable {m : KeyMap Bytes} {objects : List Object} {o : Object}

/-- **One creation** files its object: the other entries are as they were, and none of them has the new
id. -/
theorem Files.insert (h : Files m objects) (ho : ∃ text, Submits o.kind text o)
    (hfree : m.get? o.id = none) : Files (m.insert o.id o.encode) (o :: objects) where
  entries id value := by
    rw [KeyMap.get?_insert]
    split
    · next hid =>
      constructor
      · rintro ⟨⟩
        exact ⟨o, List.mem_cons_self, hid.symm, rfl⟩
      · rintro ⟨x, hx, hxid, rfl⟩
        rcases List.mem_cons.mp hx with rfl | hx
        · rfl
        · -- the id was free, so none of the others has it
          cases hfree.symm.trans ((h.entries o.id _).mpr ⟨x, hx, hxid.trans hid, rfl⟩)
    · next hid =>
      rw [h.entries]
      constructor
      · rintro ⟨x, hx, hx'⟩
        exact ⟨x, List.mem_cons_of_mem o hx, hx'⟩
      · rintro ⟨x, hx, hxid, hvalue⟩
        rcases List.mem_cons.mp hx with rfl | hx
        · exact absurd hxid.symm hid
        · exact ⟨x, hx, hxid, hvalue⟩
  submitted := List.forall_mem_cons.mpr ⟨ho, h.submitted⟩

/-- What is read under an id was stored by a create, and the tag that it carries is that of the kind
under which it was created. -/
theorem Files.found_eq_ok (h : Files m objects) {kind : Kind} {id : String}
    (hfound : found m kind id = .ok o) :
    ∃ x ∈ objects, x.id = id ∧ o.kind = kind ∧ o.id = id ∧ o.typeTag = x.kind.name ∧
      ((o.typeTag = kind.name ∧ ∀ property ∈ o.required, property.2 ≠ "") ↔ x.kind = kind) := by
  unfold found at hfound
  split at hfound
  · cases hfound
  · next value hvalue =>
    obtain ⟨x, hx, rfl, rfl⟩ := (h.entries id value).mp hvalue
    have hparse := mapError_eq_ok.mp hfound
    obtain ⟨text, hsubmits⟩ := h.submitted x hx
    -- the view does not touch the tag, so it still is that of the kind under which the object was
    -- submitted
    obtain ⟨htag, hid⟩ := Object.tagged_of_parse hparse
    rw [hsubmits.tagged] at htag
    refine ⟨x, hx, rfl, Object.kind_of_parse hparse, hid, htag, ?_, ?_⟩
    · rintro ⟨hname, -⟩
      exact Kind.name_injective (htag.symm.trans hname)
    · rintro rfl
      exact ⟨htag, Object.filled_of_parse hparse hsubmits.filled⟩

theorem Files.found_sound (h : Files m objects) {x : Object} (hx : x ∈ objects) (hsound : x.Sound)
    (kind : Kind) : found m kind x.id = .ok (x.seenAs kind) := by
  rw [found, (h.entries x.id x.encode).mpr ⟨x, hx, rfl, rfl⟩]
  exact mapError_eq_ok.mpr (Object.parse_seenAs hsound kind)

/-- Under an id that no accepted object has, every view finds nothing, and says so of its own kind. -/
theorem Files.found_absent (h : Files m objects) {id : String} (hid : ∀ x ∈ objects, x.id ≠ id)
    (kind : Kind) : found m kind id = .error (.notFound (.object kind) id) := by
  have hfree : m.get? id = none := by
    refine Option.eq_none_iff_forall_ne_some.mpr fun value hvalue => ?_
    obtain ⟨x, hx, hxid, -⟩ := (h.entries id value).mp hvalue
    exact hid x hx hxid
  rw [found, hfree]

end

section

variable {σ : Type} [Store σ] [LawfulStore σ]

/-- **Views.**  From an empty store, any texts are submitted as objects of any kinds.  Whatever a view of
one kind reads under an id then stems from an object that was accepted with that id, and carries the tag
of the kind under which that one was created; so it carries the tag of the view, and has all that its
kind requires, if and only if it was created through a view of the same kind.  An object of another kind
is not refused: it is read with what the kinds share, and all else empty.  An id with which no object was
accepted is not found. -/
theorem views_read (s : σ) (hs : Holds s .empty) (steps : List (Kind × String)) :
    let results := (createAll s steps).1
    let now := (createAll s steps).2
    ∀ kind id,
      let answer := ((read kind id).run now).result
      (∀ o, answer = .ok o → ∃ x ∈ accepted results, x.id = id ∧ o.kind = kind ∧ o.id = id ∧
        o.typeTag = x.kind.name ∧
        ((o.typeTag = kind.name ∧ ∀ property ∈ o.required, property.2 ≠ "") ↔ x.kind = kind)) ∧
      (∀ x ∈ accepted results, x.id = id → x.Whole → answer = .ok (x.seenAs kind)) ∧
      ((∀ x ∈ accepted results, x.id ≠ id) → answer = .error (.notFound (.object kind) id)) := by
  intro results now kind id answer
  -- what is stored are the objects that were accepted, each submitted as one of its kind
  obtain ⟨m, objects, hnow, hfiles, hperm⟩ := creates_keep
    (P := fun o => ∃ text, Submits o.kind text o) Files.insert hs files_empty steps fun step _ o hsubmits =>
      ⟨step.2, (Object.kind_of_parse hsubmits.parsed).symm ▸ hsubmits⟩
  have hanswer : answer = found m kind id := run_read hnow kind id
  rw [List.append_nil] at hperm
  rw [hanswer]
  refine ⟨fun o ho => ?_, fun x hx hid hwhole => ?_, fun hid => ?_⟩
  · obtain ⟨x, hx, hread⟩ := hfiles.found_eq_ok ho
    exact ⟨x, hperm.mem_iff.mp hx, hread⟩
  · subst hid
    have hx := hperm.mem_iff.mpr hx
    obtain ⟨text, hsubmits⟩ := hfiles.submitted x hx
    exact hfiles.found_sound hx (Object.sound_of_parse hsubmits.parsed hwhole) kind
  · exact hfiles.found_absent (fun x hx => hid x (hperm.mem_iff.mp hx)) kind

end

/-- An edge and a bundle are stored, and each of them is read by a view of another kind. -/
theorem filingRun_views :
    let now := (createAll MemoryStore.empty filingRun).2
    ((read .relationship "relationship--1").run now).result = .ok edge ∧
    ((read .bundle "relationship--1").run now).result = .ok (edge.seenAs .bundle) ∧
    ((read .sighting "bundle--1").run now).result = .ok (dossier.seenAs .sighting) ∧
    ((read .indicator "indicator--1").run now).result =
      .error (.notFound (.object .indicator) "indicator--1") := by
  intro now
  have hs : Holds MemoryStore.empty .empty := (MemoryStore.holds_iff _ _).mpr rfl
  have haccepted : accepted (createAll MemoryStore.empty filingRun).1 = [edge, dossier] := by
    rw [filingRun_results]
    rfl
  have hedge : edge ∈ accepted (createAll MemoryStore.empty filingRun).1 := by
    rw [haccepted]
    exact List.mem_cons_self
  have hdossier : dossier ∈ accepted (createAll MemoryStore.empty filingRun).1 := by
    rw [haccepted]
    exact List.mem_cons_of_mem _ List.mem_cons_self
  have hunused : ∀ x ∈ accepted (createAll MemoryStore.empty filingRun).1,
      x.id ≠ "indicator--1" := by
    rw [haccepted]
    decide
  have hwhole : dossier.Whole := by
    refine List.forall_mem_singleton.mpr (.array (List.forall_mem_cons.mpr ⟨.integer, ?_⟩))
    exact List.forall_mem_singleton.mpr .integer
  obtain ⟨-, hown, -⟩ := views_read MemoryStore.empty hs filingRun .relationship "relationship--1"
  obtain ⟨-, hbundle, -⟩ := views_read MemoryStore.empty hs filingRun .bundle "relationship--1"
  obtain ⟨-, hsighting, -⟩ := views_read MemoryStore.empty hs filingRun .sighting "bundle--1"
  obtain ⟨-, -, habsent⟩ := views_read MemoryStore.empty hs filingRun .indicator "indicator--1"
  exact ⟨hown edge hedge rfl trivial, hbundle edge hedge rfl trivial,
    hsighting dossier hdossier rfl hwhole, habsent hunused⟩

/-- The view of bundles answers with an object that carries the tag of a relationship: the edge was
created and is stored as one, and no view looks at the tag. -/
theorem edge_read_as_bundle :
    let now := (createAll MemoryStore.empty [(.relationship, edgeText)]).2
    ∃ o, ((read .bundle "relationship--1").run now).result = .ok o ∧ o.kind = .bundle ∧
      o.typeTag ≠ Kind.bundle.name ∧ o.typeTag = "relationship" := by
  refine ⟨edge.seenAs .bundle, ?_, rfl, by decide, rfl⟩
  decide +kernel

end Catalog
end ThreatLedger.Stix
