/-
  A store in memory: an ordered map, and the copy of it that an open invocation goes back to.
-/
import ThreatLedger.Store.Basic
import ThreatLedger.Store.KeyMap

namespace ThreatLedger

/-- A store in memory.  While an invocation is open, `saved` holds the entries from before it. -/
structure MemoryStore where
  entries : KeyMap Bytes
  saved : Option (KeyMap Bytes)

namespace MemoryStore

/-- The store without entries. -/
def empty : MemoryStore := ⟨.empty, none⟩

/-- A page of a range: its first entries, and the key of the one after them.  The map is not asked for a
range in which no key can lie, so that its bounds are never the wrong way round. -/
def page? (m : MemoryStore) (scan : Scan) (limit : Nat) : Option ScanPage :=
  if scan.exhausted then some ⟨[], ""⟩
  else (m.entries.between? scan.origin scan.stop).map fun range =>
    ⟨range.take limit, (range[limit]?.map (·.1)).getD ""⟩

/-- The page of a range, which there always is. -/
def page (m : MemoryStore) (scan : Scan) (limit : Nat) : ScanPage :=
  (m.page? scan limit).getD ⟨[], ""⟩

instance : Store MemoryStore where
  get key := fun m => ⟨.ok (m.entries.get? key), m, []⟩
  put key value := fun m => ⟨.ok (), { m with entries := m.entries.insert key value }, []⟩
  delete key := fun m => ⟨.ok (), { m with entries := m.entries.erase key }, []⟩
  scan scan := fun m => ⟨scan.limit.map (m.page scan), m, []⟩
  entry e := .succeed e
  begin := fun m =>
    match m.saved with
    | some _ => ⟨.error .alreadyOpen, m, []⟩
    | none => ⟨.ok (), { m with saved := some m.entries }, []⟩
  commit := fun m =>
    match m.saved with
    | none => ⟨.error .notOpen, m, []⟩
    | some _ => ⟨.ok (), { m with saved := none }, []⟩
  rollback := fun m =>
    match m.saved with
    | none => ⟨.error .notOpen, m, []⟩
    | some entries => ⟨.ok (), ⟨entries, none⟩, []⟩
  contents m := m.entries.entries

end MemoryStore
end ThreatLedger
