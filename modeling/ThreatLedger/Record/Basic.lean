/-
  Metadata records: what the ledger holds about an encrypted intelligence artifact kept elsewhere.

  1. **Data** — a `Record`; all of its fields are texts, but the list of roles that may see it.
  2. **Completeness** — `missingFields` names the required fields that are empty; the access list is
     optional.
  3. **Keys** — a record is stored under `Record.keyOf` of its UUID.  Different UUIDs have different keys.
-/
namespace ThreatLedger

/-- A metadata record. -/
structure Record where
  uuid : String
  description : String
  timestamp : String
  sender : String
  cid : String
  vaultKey : String
  sha256 : String
  access : List String
  deriving DecidableEq, Repr

namespace Record

/-- The record with all fields empty. -/
def empty : Record := ⟨"", "", "", "", "", "", "", []⟩

/-! ## Completeness -/

/-- The required fields, by name. -/
def requiredFields (r : Record) : List (String × String) :=
  [("UUID", r.uuid), ("Description", r.description), ("Timestamp", r.timestamp),
    ("SenderIdentity", r.sender), ("CID", r.cid), ("VaultKey", r.vaultKey), ("SHA256Hash", r.sha256)]

/-- The names of the required fields that are empty. -/
def missingFields (r : Record) : List String :=
  (r.requiredFields.filter (·.2.isEmpty)).map (·.1)

/-! ## Keys -/

/-- What every key of a record starts with. -/
def keyStart : String := "CTI_"

/-- The key of the record with a UUID. -/
def keyOf (uuid : String) : String := keyStart ++ uuid

/-- The key of a record. -/
def key (r : Record) : String := keyOf r.uuid

/-! ## Seeds -/

/-- The records that a new ledger starts with. -/
def seeds : List Record :=
  [{ uuid := "12345"
     description := "Initial metadata entry 12345"
     timestamp := "2023-10-01T12:00:00Z"
     sender := "HeadOfOperations"
     cid := "CID12345"
     vaultKey := "vaultKey12345"
     sha256 := "sha256hash12345"
     access := ["HeadOfOperations", "IntelligenceUnit"] },
   { uuid := "67890"
     description := "Initial metadata entry 67890"
     timestamp := "2023-10-02T12:00:00Z"
     sender := "SpecialOperationsUnit"
     cid := "CID67890"
     vaultKey := "vaultKey67890"
     sha256 := "sha256hash67890"
     access := ["TacticalUnit"] }]

end Record
end ThreatLedger
