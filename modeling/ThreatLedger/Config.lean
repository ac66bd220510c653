/-
  The configuration: how access is enforced, where the database is, and who calls.

  1. **Sections** — a section is a structure whose settings may be absent.  It is written as a table, or as
     a list with the settings in order; other keys are ignored as long as their numbers can be represented.
  2. **Data** — a `Config`; `AccessPolicy` reads the access section as a document of its own.
  3. **Use** — the caller that a configuration describes, and the path of the database.
-/
import ThreatLedger.Access.Caller
import ThreatLedger.Files.Path
import ThreatLedger.Toml.Document

namespace ThreatLedger

open Toml (Value Members)

/-! ## Sections -/

/-- A setting of a section; `optional` says that a list may end before it. -/
structure Setting (ρ : Type) where
  key : String
  read : Value → Option (ρ → ρ)
  optional : Bool

/-- A section: its settings in order, and its value when all are absent. -/
structure Section (ρ : Type) where
  settings : List (Setting ρ)
  empty : ρ

namespace Section

variable {ρ : Type}

/-- A section with one more member. -/
def addMember (x : Section ρ) (value : ρ) (m : String × Value) : Option ρ :=
  match x.settings.find? (·.key = m.1) with
  | some setting => (setting.read m.2).map fun f => f value
  | none => if m.2.fits then some value else none

/-- A section from the members of a table. -/
def ofMembers (x : Section ρ) (members : Members) : Option ρ := members.foldlM x.addMember x.empty

/-- A section from the items of a list; items behind the last setting are ignored. -/
def ofItems (value : ρ) : List (Setting ρ) → List Value → Option ρ
  | [], _ => some value
  | settings, [] => if settings.all (·.optional) then some value else none
  | setting :: settings, v :: vs => do
    let f ← setting.read v
    ofItems (f value) settings vs

/-- A section.  A moment counts as a table in which no setting stands. -/
def ofValue (x : Section ρ) : Value → Option ρ
  | .table _ members => x.ofMembers members
  | .array items | .tables items => ofItems x.empty x.settings items
  | .moment _ => some x.empty
  | .string _ | .integer _ | .real _ | .boolean _ => none

end Section

/-! ## Settings -/

/-- A text. -/
def textOf? : Value → Option String
  | .string s => some s
  | _ => none

/-- Whether a value is a table or a list without anything in it. -/
def isEmptyContainer : Value → Bool
  | .table _ members => members.isEmpty
  | .array items | .tables items => items.isEmpty
  | _ => false

/-- A mode: its name, or a table with its name alone and nothing in it. -/
def modeOf? : Value → Option Mode
  | .string s => Mode.ofName? s
  | .table _ [(name, v)] => if isEmptyContainer v then Mode.ofName? name else none
  | _ => none

/-- The key under which a moment stands when it counts as a table. -/
def momentKey : String := "$__toml_private_datetime"

/-- Attributes: a table of texts. -/
def attributesOf? : Value → Option Attributes
  | .table _ members => members.mapM fun m => (textOf? m.2).map fun s => (m.1, s)
  | .moment t => some [(momentKey, t)]
  | _ => none

/-! ## Configurations -/

/-- How access is enforced, as a section of its own. -/
def accessSection : Section Mode where
  settings := [⟨"mode", fun v => (modeOf? v).map fun m _ => m, true⟩]
  empty := .rbac

/-- Where the database is, as a section of its own. -/
def storeSection : Section (Option String) where
  settings := [⟨"path", fun v => (textOf? v).map fun s _ => some s, false⟩]
  empty := none

/-- Who calls: a role, and further attributes. -/
structure Identity where
  role : Option String
  attributes : Attributes
  deriving DecidableEq, Repr

/-- Who calls, as a section of its own. -/
def identitySection : Section Identity where
  settings :=
    [⟨"role", fun v => (textOf? v).map fun s x => { x with role := some s }, false⟩,
     ⟨"attributes", fun v => (attributesOf? v).map fun as x => { x with attributes := as }, true⟩]
  empty := ⟨none, []⟩

/-- A configuration. -/
structure Config where
  mode : Mode
  storePath : Option String
  identity : Identity
  deriving DecidableEq, Repr

namespace Config

/-- The configuration with all settings absent. -/
def empty : Config := ⟨accessSection.empty, storeSection.empty, identitySection.empty⟩

/-- A configuration as a section that holds the other ones. -/
def sections : Section Config where
  settings :=
    [⟨"ledger", fun v => (accessSection.ofValue v).map fun x c => { c with mode := x }, true⟩,
     ⟨"store", fun v => (storeSection.ofValue v).map fun x c => { c with storePath := x }, true⟩,
     ⟨"identity", fun v => (identitySection.ofValue v).map fun x c => { c with identity := x }, true⟩]
  empty := empty

/-- The configuration that a document describes. -/
def parse (text : String) : Option Config :=
  match Toml.parse text with
  | .ok members => sections.ofMembers members
  | .error _ => none

/-! ## Use -/

/-- The caller that a configuration describes; a role that is given takes the place of its own. -/
def caller (c : Config) (role : Option String) : Caller :=
  let attributes := Attributes.ofPairs c.identity.attributes
  match role <|> c.identity.role with
  | some role => .known (attributes.set Role.attributeName role)
  | none => .known attributes

/-- The role that stands for the caller as a sender: the one given, or the configured one. -/
def senderRole (c : Config) (role : Option String) : Option String := role <|> c.identity.role

/-- The name of the database where no path is configured. -/
def databaseName : String := "ledger.db"

/-- The path of the database, for a directory of data. -/
def databasePath (c : Config) (dataDir : String) : String :=
  c.storePath.getD (Path.join dataDir databaseName)

end Config

/-- The mode that a document with the access section alone describes. -/
def Mode.parse (text : String) : Option Mode :=
  match Toml.parse text with
  | .ok members => accessSection.ofMembers members
  | .error _ => none

end ThreatLedger
