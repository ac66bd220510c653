/-
  A record is read back as it was, and so is a page of records.
-/
import ThreatLedger.Proofs.Json.RoundTrip
import ThreatLedger.Record.Encoding

namespace ThreatLedger

open Json

namespace Record

/-- The access list is read back as it was printed; an empty one is printed as `null`, and read back as
empty. -/
theorem reads_access (r : Record) :
    Reads accessProperty.read (accessProperty.value r) fun s => { s with access := r.access } := by
  have hlist : Reads (listOrNull text) (.array (r.access.map .string)) r.access :=
    reads_listOrNull fun t _ => reads_text t
  exact hlist.map fun xs (s : Record) => { s with access := xs }

/-- The properties of a record are read back one after the other, whatever their texts are and however
many names the access list has. -/
theorem reads (r : Record) : Reads schema.read (schema.value r) r := by
  have h : ReadsBack r schema.properties _ :=
    .cons (reads_textProperty ..) <| .cons (reads_textProperty ..) <|
    .cons (reads_textProperty ..) <| .cons (reads_textProperty ..) <|
    .cons (reads_textProperty ..) <| .cons (reads_textProperty ..) <|
    .cons (reads_textProperty ..) <| .cons (reads_access r) .nil
  exact reads_schema h (by decide)

/-- **Round trip.**  The bytes that a record is stored as hold that record.  There is no condition on
it: every text can be written and read back. -/
theorem decode_encode (r : Record) : decode r.encode = .ok r := (reads r).whole

end Record

/-- The records of a page are read back one after the other, and then its bookmark. -/
theorem Page.reads (p : Page) : Reads schema.read (schema.value p) p := by
  have h : ReadsBack p schema.properties _ :=
    .cons (reads_listProperty "metadataList" _ _ fun r _ => r.reads) <|
    .cons (reads_textProperty "bookmark" ..) .nil
  exact reads_schema h (by decide)

end ThreatLedger
