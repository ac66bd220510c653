/-
  A database as bytes, as it is kept in a file.

  1. **Form** — a JSON object with one member, whose name marks the file; under it an object for each
     namespace, which gives the bytes of each key in hexadecimal digits.
  2. **Reading** — `decode?` answers only for bytes of that form.  What was not committed is not kept.
-/
import ThreatLedger.Json.Printer
import ThreatLedger.Json.Raw
import ThreatLedger.Store.Database

namespace ThreatLedger.Snapshot

open Json (Value)

/-- The name that marks a file as a database. -/
def mark : String := "threat ledger"

/-! ## Writing -/

/-- The rows of a namespace as a value. -/
def ofRows (rows : KeyMap Bytes) : Value :=
  .object (rows.entries.map fun e => (e.1, .string (Bytes.hex e.2)))

/-- A table as a value. -/
def ofTable (t : Table) : Value := .object (t.entries.map fun e => (e.1, ofRows e.2))

/-- The bytes that keep a database. -/
def encode (d : Database) : Bytes := (Value.object [(mark, ofTable d.committed)]).encode

/-! ## Reading -/

/-- The bytes under a key. -/
def bytes? : Value → Option Bytes
  | .string s => Bytes.ofHex? s
  | _ => none

/-- A map from the members of an object, each of which `f` reads. -/
def map? {α : Type} (f : Value → Option α) : Value → Option (KeyMap α)
  | .object members => members.foldlM (fun m e => (f e.2).map (m.insert e.1)) .empty
  | _ => none

/-- The database that bytes keep. -/
def decode? (b : Bytes) : Option Database :=
  match Value.parse b with
  | .ok (.object [(name, v)]) =>
    if name = mark then (map? (map? bytes?) v).map (⟨·, none⟩) else none
  | _ => none

end ThreatLedger.Snapshot
