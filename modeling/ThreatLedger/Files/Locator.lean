/-
  Names of databases: where a database lies, and how it is opened.

  1. **Modes** — what may be done with a database; an option can restrict it, and never widen it.
  2. **Switches** — the words and numbers that switch an option on.
  3. **Locators** — `Locator.ofName?` reads a name.  A name that starts with `file:` is a URI, with a host,
     a path and a query of options, all percent-encoded; every other name is a path.
-/
import ThreatLedger.Bytes
import ThreatLedger.Files.Path
import ThreatLedger.Text.Ascii

namespace ThreatLedger

/-! ## Modes -/

/-- How a database is opened: to be read, to be written, to be made where it is missing, or in memory. -/
inductive OpenMode
  | read
  | write
  | create
  | memory
  deriving DecidableEq, Repr

namespace OpenMode

/-- The mode with a name. -/
def ofName? : String → Option OpenMode
  | "ro" => some .read
  | "rw" => some .write
  | "rwc" => some .create
  | "memory" => some .memory
  | _ => none

/-- How much a mode allows. -/
def rank : OpenMode → Nat
  | .read => 0
  | .write => 1
  | .create => 2
  | .memory => 3

/-- The mode after an option that names one; only memory may take the place of a mode that allows less. -/
def restrict (m : OpenMode) (name : String) : Option OpenMode := do
  let new ← ofName? name
  if new = .memory ∨ new.rank ≤ m.rank then some new else none

end OpenMode

/-- What a database is kept in. -/
inductive Medium
  | files
  | memory
  deriving DecidableEq, Repr

/-- The medium with a name; files have several, for as many ways to lock them. -/
def Medium.ofName? (name : String) : Option Medium :=
  if name = "memdb" then some .memory
  else if ["unix", "unix-none", "unix-dotfile", "unix-excl"].contains name then some .files
  else none

/-! ## Switches -/

namespace Switch

/-- The number that the digits at the start of some bytes write. -/
def digits (base : Nat) (b : Bytes) : Nat :=
  let values := b.map fun x => (Ascii.hexValue? x).getD base
  (values.takeWhile (· < base)).foldl (fun n d => base * n + d) 0

/-- The number at the start of some bytes, in hexadecimal digits behind `0x`. -/
def number (b : Bytes) : Nat :=
  if b.take 2 = Bytes.ofText "0x" ∨ b.take 2 = Bytes.ofText "0X" then digits 16 (b.drop 2)
  else digits 10 b

/-- The number that is too great for a switch. -/
def limit : Nat := 2147483648

/-- Whether a value is a word for yes, or starts with a number whose last eight bits are not all zero. -/
def isOn (value : String) : Bool :=
  let n := number (Bytes.ofText value)
  ["on", "yes", "true"].contains value.toLower || (n < limit && n % 256 ≠ 0)

end Switch

/-! ## Locators -/

/-- Where a database lies and how it is opened.  An immutable database is never written; the model is a
file that has to be there. -/
structure Locator where
  path : String
  mode : OpenMode
  medium : Medium
  immutable : Bool
  model : Option String
  deriving DecidableEq, Repr

namespace Locator

/-- The database at a path, which is made where it is missing. -/
def ofPath (path : String) : Locator := ⟨path, .create, .files, false, none⟩

/-- Whether a database has no name of its own, and so is in memory whatever the medium. -/
def isNameless (l : Locator) : Bool := l.path = "" || l.path = ":memory:" || l.mode = .memory

/-- Whether a database is private to one run: nothing of it is kept. -/
def isPrivate (l : Locator) : Bool := l.isNameless || l.medium = .memory

/-- Whether a database may be written. -/
def isWritable (l : Locator) : Bool := l.mode ≠ .read && (l.isNameless || !l.immutable)

/-! ### Pieces of a URI -/

/-- The byte that an escape stands for: a percent sign and two hexadecimal digits. -/
def escaped? (sign high low : UInt8) : Option UInt8 := do
  let x ← Ascii.hexValue? high
  let y ← Ascii.hexValue? low
  if sign = ascii '%' then some (UInt8.ofNat (16 * x + y)) else none

/-- The bytes that a piece with escapes stands for; an escaped NUL ends it. -/
def unescape : Bytes → Bytes
  | sign :: high :: low :: b =>
    match escaped? sign high low with
    | some x => if x = 0 then [] else x :: unescape b
    | none => sign :: unescape (high :: low :: b)
  | b => b

/-- The text that a piece stands for. -/
def pieceText (piece : List Char) : String :=
  (unescape (Bytes.ofText (String.ofList piece))).readableText

/-- The part of a text before a separator, and the part behind it. -/
def cut (separator : Char) (s : List Char) : List Char × List Char :=
  (s.takeWhile (· ≠ separator), (s.dropWhile (· ≠ separator)).drop 1)

/-- The options of a query with their values; an option without a name does not count. -/
def options (query : List Char) : List (String × String) :=
  let named := (Path.pieces '&' query).map fun piece =>
    let (name, value) := cut '=' piece
    (pieceText name, pieceText value)
  named.filter (·.1 ≠ "")

/-- What follows the host, which may be left out; only this machine can be the host. -/
def behindHost (s : List Char) : Option (List Char) :=
  match s with
  | '/' :: '/' :: s =>
    let host := String.ofList (s.takeWhile (· ≠ '/'))
    if host = "" ∨ host = "localhost" then some (s.dropWhile (· ≠ '/')) else none
  | s => some s

/-! ### Reading -/

/-- The mode that the options of a query leave. -/
def modeOf (options : List (String × String)) : Option OpenMode :=
  options.foldlM (fun mode o =>
    if o.1 = "mode" then mode.restrict o.2
    else if o.1 = "cache" ∧ o.2 ≠ "shared" ∧ o.2 ≠ "private" then none
    else some mode) .create

/-- The medium that the last option about it names. -/
def mediumOf (options : List (String × String)) : Option Medium :=
  match (options.filter (·.1 = "vfs")).getLast? with
  | some o => Medium.ofName? o.2
  | none => some .files

/-- Reads a URI behind its scheme; a fragment at its end does not count. -/
def ofUri? (s : List Char) : Option Locator := do
  let s ← behindHost s
  let (path, query) := cut '?' (s.takeWhile (· ≠ '#'))
  let options := options query
  let mode ← modeOf options
  let medium ← mediumOf options
  some ⟨pieceText path, mode, medium, (options.lookup "immutable").any Switch.isOn,
    options.lookup "modeof"⟩

/-- The scheme of URIs. -/
def scheme : List Char := "file:".toList

/-- Reads the name of a database. -/
def ofName? (name : String) : Option Locator :=
  let s := name.toList
  if s.contains '\x00' then none
  else if scheme.isPrefixOf s then ofUri? (s.drop scheme.length)
  else some (ofPath name)

end Locator
end ThreatLedger
