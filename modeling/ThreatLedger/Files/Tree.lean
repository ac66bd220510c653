/-
  A tree of files, as a program finds it from the directory that it runs in.

  1. **Nodes** — directories, files with their bytes, and databases.
  2. **Places** — a path is resolved step by step, and every step but the last has to lead into a
     directory that exists.
  3. **Operations** — reading a file and making directories.

  The directory above, and the root, are directories about which nothing else is known.
-/
import ThreatLedger.Files.Path
import ThreatLedger.Store.Database

namespace ThreatLedger

/-! ## Failures -/

/-- Why an operation on files fails. -/
inductive FileFailure
  | notFound
  | alreadyThere
  | notDirectory
  | isDirectory
  | nameTooLong
  | badName
  deriving DecidableEq, Repr

/-- The message of a failure. -/
def FileFailure.message : FileFailure → String
  | .notFound => "No such file or directory (os error 2)"
  | .alreadyThere => "File exists (os error 17)"
  | .notDirectory => "Not a directory (os error 20)"
  | .isDirectory => "Is a directory (os error 21)"
  | .nameTooLong => "File name too long (os error 36)"
  | .badName => "file name contained an unexpected NUL byte"

/-! ## Trees -/

/-- What stands at a place. -/
inductive Node
  | directory
  | file (content : Bytes)
  | database (d : Database)

/-- A tree: what stands at each place, by the parts of the place with slashes between them. -/
abbrev Tree := KeyMap Node

/-- A place: the parts that lead to it from the working directory, or from the root. -/
abbrev Place := List String

namespace Place

/-- The place one step up. -/
def up (p : Place) : Place :=
  if p = [Path.root] then p
  else if p.all (· = "..") then p ++ [".."]
  else p.dropLast

/-- The text by which a tree knows a place. -/
def text (p : Place) : String := "/".intercalate p

/-- Whether a place is the working directory, one above it, or the root. -/
def isGiven (p : Place) : Bool := p.all (· = "..") || p = [Path.root]

/-- Where a path starts. -/
def start (path : String) : Place := if Path.isAbsolute path then [Path.root] else []

/-- The place that a step leads to, whatever stands there. -/
def go (p : Place) (step : String) : Place :=
  if step = "" ∨ step = "." then p else if step = ".." then p.up else p ++ [step]

end Place

namespace Tree

/-- What stands at a place. -/
def node? (t : Tree) (p : Place) : Option Node :=
  if p.isGiven then some .directory else KeyMap.get? t p.text

/-- Puts a node at a place. -/
def place (t : Tree) (p : Place) (n : Node) : Tree := KeyMap.insert t p.text n

/-- Takes away what stands at a place. -/
def remove (t : Tree) (p : Place) : Tree := KeyMap.erase t p.text

/-- Whether a directory stands at a place. -/
def isDirectory (t : Tree) (p : Place) : Bool :=
  match t.node? p with
  | some .directory => true
  | _ => false

/-! ## Resolving paths -/

/-- The greatest number of bytes in a name. -/
def longestName : Nat := 255

/-- One step from a place, which has to be a directory. -/
def step (t : Tree) (p : Place) (s : String) : Except FileFailure Place :=
  match t.node? p with
  | none => .error .notFound
  | some .directory =>
    if longestName < s.utf8ByteSize then .error .nameTooLong else .ok (p.go s)
  | some _ => .error .notDirectory

/-- The place that steps lead to. -/
def follow (t : Tree) (p : Place) (steps : List String) : Except FileFailure Place :=
  steps.foldlM t.step p

/-- The number of bytes that is too great for a path. -/
def pathLimit : Nat := 4096

/-- Why a text is no path, whatever the tree. -/
def textFailure? (path : String) : Option FileFailure :=
  if path.toList.contains '\x00' then some .badName
  else if path.isEmpty then some .notFound
  else if pathLimit ≤ path.utf8ByteSize then some .nameTooLong
  else none

/-- The place of a path; nothing need stand there, but what leads to it has to be there. -/
def locate (t : Tree) (path : String) : Except FileFailure Place :=
  match textFailure? path with
  | some e => .error e
  | none => t.follow (Place.start path) (Path.steps path)

/-! ## Reading -/

/-- What is read of a database file: the bytes that every such file starts with, and one that shows that
they go on as no text. -/
def databaseMark : Bytes := Bytes.ofText "SQLite format 3\x00" ++ [0x8d]

/-- The bytes of a file. -/
def read (t : Tree) (path : String) : Except FileFailure Bytes := do
  match t.node? (← t.locate path) with
  | none => .error .notFound
  | some .directory => .error .isDirectory
  | some (.file content) => .ok content
  | some (.database _) => .ok databaseMark

/-- Whether something stands at a path. -/
def holds (t : Tree) (path : String) : Bool :=
  match t.locate path with
  | .ok p => (t.node? p).isSome
  | .error _ => false

/-! ## Directories -/

/-- The place of parts of a path. -/
def locateParts (t : Tree) : List String → Except FileFailure Place
  | [] => .ok []
  | s :: ss => if s = Path.root then t.follow [Path.root] ss else t.follow [] (s :: ss)

/-- Makes a directory. -/
def makeDirectory (t : Tree) (parts : List String) : Except FileFailure Tree := do
  let p ← t.locateParts parts
  match t.node? p with
  | some _ => .error .alreadyThere
  | none => .ok (t.place p .directory)

/-- Whether the parts of a path lead to a directory. -/
def leadsToDirectory (t : Tree) (parts : List String) : Bool :=
  match t.locateParts parts with
  | .ok p => t.isDirectory p
  | .error _ => false

/-- Makes a directory unless it is there. -/
def ensureDirectory (t : Tree) (parts : List String) : Except FileFailure Tree :=
  match t.makeDirectory parts with
  | .ok t => .ok t
  | .error e => if t.leadsToDirectory parts then .ok t else .error e

/-- Makes a directory and those above it that are missing; the parts are given from the last one on. -/
def ensureDirectories (t : Tree) : List String → Except FileFailure Tree
  | [] => .ok t
  | s :: ss =>
    match t.ensureDirectory (s :: ss).reverse with
    | .error .notFound => do
      let t ← t.ensureDirectories ss
      t.ensureDirectory (s :: ss).reverse
    | outcome => outcome

/-- Makes the directory at a path and those above it that are missing. -/
def makeDirectories (t : Tree) (path : String) : Except FileFailure Tree :=
  match textFailure? path with
  | some e => .error e
  | none => t.ensureDirectories (Path.parts path).reverse

/-! ## Contents -/

/-- A tree with one more file, or directory if there are no bytes, and the directories above it. -/
def add (t : Tree) (path : String) (content : Option Bytes) : Tree :=
  let parts := Path.parts path
  let above :=
    match t.ensureDirectories parts.dropLast.reverse with
    | .ok t => t
    | .error _ => t
  above.place parts (match content with
    | some b => .file b
    | none => .directory)

/-- The paths of all files below the working directory, in order. -/
def files (t : Tree) : List String :=
  t.entries.filterMap fun e =>
    match e.2 with
    | .directory => none
    | .file _ | .database _ =>
      if e.1.startsWith "../" || e.1.startsWith "/" then none else some e.1

end Tree
end ThreatLedger
