/-
  The kinds of STIX objects that are kept.
-/
namespace ThreatLedger.Stix

/-- A kind of STIX objects. -/
inductive Kind
  | indicator
  | relationship
  | sighting
  | bundle
  deriving DecidableEq, Repr

namespace Kind

/-- The type tag of a kind. -/
def name : Kind → String
  | .indicator => "indicator"
  | .relationship => "relationship"
  | .sighting => "sighting"
  | .bundle => "bundle"

/-- Every kind. -/
def all : List Kind := [.indicator, .relationship, .sighting, .bundle]

/-- The kind with a type tag. -/
def ofName? (name : String) : Option Kind := all.find? (·.name = name)

end Kind
end ThreatLedger.Stix
