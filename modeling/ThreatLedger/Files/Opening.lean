/-
  Opening the database with a name.

  1. **Places** — steps up are taken in the text of a path, and names may follow what is missing.  A place
     is fit for a database if its directory is there and the full path of the journal is not too long.
  2. **New databases** — an empty file becomes a database, once what an earlier database has left beside it
     is out of the way.
  3. **Opening** — `openDatabase` answers with the database and where it is kept.  What was done to the tree
     stays when the opening fails.
-/
import ThreatLedger.Files.Locator
import ThreatLedger.Files.Tree

namespace ThreatLedger

/-- A database that has been opened: where it is kept, if it is kept, and whether it may be written. -/
structure Opened where
  database : Database
  place : Option Place
  writable : Bool

/-- The tree that opening a database leaves behind, and the database or why there is none. -/
abbrev Opening := Tree × Except StoreError Opened

/-! ## Places -/

namespace Place

/-- The size that the full path of the working directory is taken to have: it is not known. -/
def workingSize : Nat := 32

/-- The number of bytes in the full path of a place. -/
def fullSize (p : Place) : Nat :=
  let names := p.filter (· ≠ Path.root)
  let above := if p.head? = some Path.root then 0 else workingSize
  names.foldl (fun size name => size + 1 + name.utf8ByteSize) above

/-- The name of a place. -/
def name (p : Place) : String := p.getLast?.getD ""

/-- The place beside another one whose name goes on with an ending. -/
def beside (p : Place) (ending : String) : Place := p.dropLast ++ [p.name ++ ending]

/-- The place of the journal of a database, in which its changes are prepared. -/
def journal (p : Place) : Place := p.beside "-journal"

/-- The place of the log of a database, in which its changes can also be kept. -/
def writeLog (p : Place) : Place := p.beside "-wal"

end Place

namespace Tree

/-- The greatest number of bytes in the full path of a database and its journal. -/
def longestFullPath : Nat := 512

/-- One step towards a database: no file may be on the way, and no path may become too long. -/
def approach (t : Tree) (p : Place) (s : String) : Except StoreError Place :=
  let q := p.go s
  if s = "" ∨ s = "." ∨ s = ".." then .ok q
  else if longestFullPath ≤ q.fullSize then .error .database
  else
    match t.node? p with
    | none => .ok q
    | some .directory => if longestName < s.utf8ByteSize then .error .database else .ok q
    | some _ => .error .database

/-- The place of the database at a path. -/
def databasePlace (t : Tree) (path : String) : Except StoreError Place := do
  let p ← (Path.steps path).foldlM t.approach (Place.start path)
  if t.isDirectory p ∨ !t.isDirectory p.dropLast ∨ longestFullPath < p.journal.fullSize then
    .error .database
  else .ok p

/-! ## New databases -/

/-- Takes away a file with some bytes. -/
def removeContent (t : Tree) (p : Place) : Tree :=
  match t.node? p with
  | none | some .directory | some (.file []) => t
  | some _ => t.remove p

/-- Makes a database of the empty file at a place. -/
def foundDatabase (t : Tree) (l : Locator) (p : Place) : Opening :=
  if l.immutable then (t, .error .database)
  else
    let t := if l.isWritable then t.removeContent p.journal else t
    let t := t.removeContent p.writeLog
    if !l.isWritable ∨ t.isDirectory p.writeLog ∨ t.isDirectory p.journal
        ∨ longestName < p.journal.name.utf8ByteSize then (t, .error .database)
    else ((t.remove p.journal).place p (.database .empty), .ok ⟨.empty, some p, true⟩)

/-! ## Opening -/

/-- The greatest number of bytes in a file that counts as empty. -/
def emptySize : Nat := 1

/-- Opens the database at a place. -/
def openAt (t : Tree) (l : Locator) (p : Place) : Opening :=
  match t.node? p with
  | some (.database d) => (t, .ok ⟨d, some p, l.isWritable⟩)
  | some .directory => (t, .error .database)
  | some (.file content) =>
    if content.length ≤ emptySize then t.foundDatabase l p else (t, .error .database)
  | none =>
    if l.mode = .create then (t.place p (.file [])).foundDatabase l p else (t, .error .database)

/-- Opens a database in files. -/
def openInFiles (t : Tree) (l : Locator) : Opening :=
  if l.model.any (!t.holds ·) then (t, .error .database)
  else
    match t.databasePlace l.path with
    | .error e => (t, .error e)
    | .ok p => t.openAt l p

/-- Opens a database that is private to one run. -/
def openPrivate (t : Tree) (l : Locator) : Opening :=
  (t, if l.isWritable then .ok ⟨.empty, none, true⟩ else .error .database)

/-- Opens the database with a name. -/
def openDatabase (t : Tree) (name : String) : Opening :=
  match Locator.ofName? name with
  | none => (t, .error .database)
  | some l => if l.isPrivate then t.openPrivate l else t.openInFiles l

/-- Keeps a database where it was opened. -/
def keepDatabase (t : Tree) (place : Option Place) (d : Database) : Tree :=
  place.elim t (t.place · (.database d))

end Tree
end ThreatLedger
