/-
  STIX objects: indicators, relationships, sightings and bundles.

  1. **Data** — a structure for each kind.  A type tag is kept as it was submitted; whether it fits the kind
     is judged when an object is stored.
  2. **JSON** — a schema for each kind; absent properties are empty, or zero.  The objects inside a bundle
     are kept as raw values, and all containers around them count towards the greatest depth.
  3. **Objects** — `Object` is an object of any kind, with what all kinds have in common.
-/
import ThreatLedger.Json.Raw
import ThreatLedger.Json.Schema
import ThreatLedger.Stix.Kind

namespace ThreatLedger.Stix

/-! ## References -/

/-- A reference to something outside the ledger. -/
structure ExternalReference where
  sourceName : String
  url : String
  deriving DecidableEq, Repr

open Json in
/-- A reference as a structure. -/
def ExternalReference.schema : Schema ExternalReference where
  title := "struct ExternalReference"
  empty := ⟨"", ""⟩
  properties :=
    [.text "source_name" sourceName fun x r => { r with sourceName := x },
     .text "url" url fun x r => { r with url := x }]

/-! ## Indicators -/

/-- A pattern by which something is detected. -/
structure Indicator where
  typeTag : String
  id : String
  specVersion : String
  created : String
  modified : String
  name : String
  description : String
  pattern : String
  patternType : String
  validFrom : String
  labels : List String
  confidence : Int64
  references : List ExternalReference
  deriving DecidableEq, Repr

namespace Indicator

open Json in
/-- An indicator as a structure. -/
def schema : Schema Indicator where
  title := "struct Indicator"
  empty := ⟨"", "", "", "", "", "", "", "", "", "", [], 0, []⟩
  properties :=
    [.text "type" typeTag fun x o => { o with typeTag := x },
     .text "id" id fun x o => { o with id := x },
     .text "spec_version" specVersion fun x o => { o with specVersion := x },
     .text "created" created fun x o => { o with created := x },
     .text "modified" modified fun x o => { o with modified := x },
     .text "name" name fun x o => { o with name := x },
     .text "description" description fun x o => { o with description := x },
     .text "pattern" pattern fun x o => { o with pattern := x },
     .text "pattern_type" patternType fun x o => { o with patternType := x },
     .text "valid_from" validFrom fun x o => { o with validFrom := x },
     .list "labels" text .string labels fun x o => { o with labels := x },
     .int64 "confidence" confidence fun x o => { o with confidence := x },
     .list "external_references" ExternalReference.schema.read ExternalReference.schema.value
       references fun x o => { o with references := x }]

/-- The required properties, by name. -/
def required (o : Indicator) : List (String × String) :=
  [("id", o.id), ("spec_version", o.specVersion), ("created", o.created), ("modified", o.modified),
    ("pattern", o.pattern), ("pattern_type", o.patternType), ("valid_from", o.validFrom)]

end Indicator

/-! ## Relationships -/

/-- A typed edge between two objects. -/
structure Relationship where
  typeTag : String
  id : String
  specVersion : String
  created : String
  modified : String
  relationshipType : String
  sourceRef : String
  targetRef : String
  deriving DecidableEq, Repr

namespace Relationship

open Json in
/-- A relationship as a structure. -/
def schema : Schema Relationship where
  title := "struct Relationship"
  empty := ⟨"", "", "", "", "", "", "", ""⟩
  properties :=
    [.text "type" typeTag fun x o => { o with typeTag := x },
     .text "id" id fun x o => { o with id := x },
     .text "spec_version" specVersion fun x o => { o with specVersion := x },
     .text "created" created fun x o => { o with created := x },
     .text "modified" modified fun x o => { o with modified := x },
     .text "relationship_type" relationshipType fun x o => { o with relationshipType := x },
     .text "source_ref" sourceRef fun x o => { o with sourceRef := x },
     .text "target_ref" targetRef fun x o => { o with targetRef := x }]

/-- The required properties, by name. -/
def required (o : Relationship) : List (String × String) :=
  [("id", o.id), ("spec_version", o.specVersion), ("created", o.created), ("modified", o.modified),
    ("relationship_type", o.relationshipType), ("source_ref", o.sourceRef),
    ("target_ref", o.targetRef)]

end Relationship

/-! ## Sightings -/

/-- A report that something was seen. -/
structure Sighting where
  typeTag : String
  id : String
  specVersion : String
  created : String
  modified : String
  firstSeen : String
  lastSeen : String
  count : Int64
  sightingOfRef : String
  whereSightedRefs : List String
  deriving DecidableEq, Repr

namespace Sighting

open Json in
/-- A sighting as a structure. -/
def schema : Schema Sighting where
  title := "struct Sighting"
  empty := ⟨"", "", "", "", "", "", "", 0, "", []⟩
  properties :=
    [.text "type" typeTag fun x o => { o with typeTag := x },
     .text "id" id fun x o => { o with id := x },
     .text "spec_version" specVersion fun x o => { o with specVersion := x },
     .text "created" created fun x o => { o with created := x },
     .text "modified" modified fun x o => { o with modified := x },
     .text "first_seen" firstSeen fun x o => { o with firstSeen := x },
     .text "last_seen" lastSeen fun x o => { o with lastSeen := x },
     .int64 "count" count fun x o => { o with count := x },
     .text "sighting_of_ref" sightingOfRef fun x o => { o with sightingOfRef := x },
     .list "where_sighted_refs" text .string whereSightedRefs
       fun x o => { o with whereSightedRefs := x }]

/-- The required properties, by name. -/
def required (o : Sighting) : List (String × String) :=
  [("id", o.id), ("spec_version", o.specVersion), ("created", o.created), ("modified", o.modified),
    ("sighting_of_ref", o.sightingOfRef)]

end Sighting

/-! ## Bundles -/

/-- A collection of objects of any kinds. -/
structure Bundle where
  typeTag : String
  id : String
  specVersion : String
  objects : List Json.Value
  deriving DecidableEq, Repr

namespace Bundle

/-- How many containers of a bundle stand around an object inside it: the bundle and its list. -/
def framesAround : Nat := 2

open Json in
/-- A bundle as a structure. -/
def schema : Schema Bundle where
  title := "struct Bundle"
  empty := ⟨"", "", "", []⟩
  properties :=
    [.text "type" typeTag fun x o => { o with typeTag := x },
     .text "id" id fun x o => { o with id := x },
     .text "spec_version" specVersion fun x o => { o with specVersion := x },
     .list "objects" (raw (greatestDepth - framesAround)) (fun v => v) objects
       fun x o => { o with objects := x }]

/-- The required properties, by name. -/
def required (o : Bundle) : List (String × String) := [("id", o.id)]

end Bundle

/-! ## Objects of any kind -/

/-- A STIX object. -/
inductive Object
  | indicator (o : Indicator)
  | relationship (o : Relationship)
  | sighting (o : Sighting)
  | bundle (o : Bundle)
  deriving DecidableEq, Repr

namespace Object

/-- Reads bytes as an object of a kind. -/
def parse (kind : Kind) (b : Bytes) : Except Json.Error Object :=
  match kind with
  | .indicator => (Indicator.schema.parse b).map .indicator
  | .relationship => (Relationship.schema.parse b).map .relationship
  | .sighting => (Sighting.schema.parse b).map .sighting
  | .bundle => (Bundle.schema.parse b).map .bundle

/-- The kind of an object. -/
def kind : Object → Kind
  | .indicator _ => .indicator
  | .relationship _ => .relationship
  | .sighting _ => .sighting
  | .bundle _ => .bundle

/-- The type tag that an object carries. -/
def typeTag : Object → String
  | .indicator o => o.typeTag
  | .relationship o => o.typeTag
  | .sighting o => o.typeTag
  | .bundle o => o.typeTag

/-- The id of an object. -/
def id : Object → String
  | .indicator o => o.id
  | .relationship o => o.id
  | .sighting o => o.id
  | .bundle o => o.id

/-- The required properties, by name. -/
def required : Object → List (String × String)
  | .indicator o => o.required
  | .relationship o => o.required
  | .sighting o => o.required
  | .bundle o => o.required

/-- The names of the required properties that are empty. -/
def missing (o : Object) : List String := (o.required.filter (·.2.isEmpty)).map (·.1)

/-- An object as a JSON value. -/
def value : Object → Json.Value
  | .indicator o => Indicator.schema.value o
  | .relationship o => Relationship.schema.value o
  | .sighting o => Sighting.schema.value o
  | .bundle o => Bundle.schema.value o

/-- The bytes an object is stored as. -/
def encode (o : Object) : Bytes := o.value.encode

/-- A text that is parsed as an object of a kind gives one of that kind: the views do not mix their
constructors. -/
theorem kind_of_parse {kind : Kind} {b : Bytes} {o : Object} (h : parse kind b = .ok o) :
    o.kind = kind := by
  cases kind <;> simp only [parse, Except.map] at h <;> split at h <;> cases h <;> rfl

end Object
end ThreatLedger.Stix
