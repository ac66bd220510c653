/-
  Records and pages of records as JSON.

  1. **Records** — `Record.schema` names the properties.  An absent property is empty, so that an incomplete
     submission is found incomplete and not malformed; the access list may also be `null`.
  2. **Pages** — one page of a listing: the records that are shown, and the bookmark to go on from.
     Neither may be absent.
-/
import ThreatLedger.Json.Schema
import ThreatLedger.Record.Basic

namespace ThreatLedger

namespace Record

open Json in
/-- The access list of a record. -/
def accessProperty : Property Record :=
  ⟨"AccessList", (listOrNull text).map fun xs r => { r with access := xs },
    fun r => .array (r.access.map .string), false⟩

open Json in
/-- A record as a structure. -/
def schema : Schema Record where
  title := "struct CtiMetadata"
  empty := empty
  properties :=
    [.text "UUID" uuid fun x r => { r with uuid := x },
     .text "Description" description fun x r => { r with description := x },
     .text "Timestamp" timestamp fun x r => { r with timestamp := x },
     .text "SenderIdentity" sender fun x r => { r with sender := x },
     .text "CID" cid fun x r => { r with cid := x },
     .text "VaultKey" vaultKey fun x r => { r with vaultKey := x },
     .text "SHA256Hash" sha256 fun x r => { r with sha256 := x },
     accessProperty]

/-- The bytes a record is stored as. -/
def encode (r : Record) : Bytes := schema.encode r

/-- The record that bytes hold. -/
def decode (b : Bytes) : Except Json.Error Record := schema.parse b

/-- The record that a submitted text holds. -/
def parse (s : String) : Except Json.Error Record := decode (Bytes.ofText s)

end Record

/-! ## Pages -/

/-- One page of a listing. -/
structure Page where
  records : List Record
  bookmark : String
  deriving DecidableEq, Repr

namespace Page

open Json in
/-- A page as a structure. -/
def schema : Schema Page where
  title := "struct Page"
  empty := ⟨[], ""⟩
  properties :=
    [(Property.list "metadataList" Record.schema.read Record.schema.value records
        fun xs p => { p with records := xs }).require,
     (Property.text "bookmark" bookmark fun x p => { p with bookmark := x }).require]

/-- The text of a page. -/
def encode (p : Page) : Bytes := schema.encode p

/-- The page that a text holds. -/
def parse (s : String) : Except Json.Error Page := schema.parse (Bytes.ofText s)

end Page
end ThreatLedger
