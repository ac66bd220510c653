/-
  Running a command on a tree of files.

  1. **Preparation** — the configuration is read, the directory of the database made, and the database
     opened; each can fail, and what was done before it stays.
  2. **Commands** — the ledger and the catalog each keep to a namespace of the database.  What is printed
     comes from a command that succeeded; a failed one prints nothing.
  3. **Logging** — how many events a run shows, for its verbosity.
-/
import ThreatLedger.CommandLine.Submission
import ThreatLedger.Config
import ThreatLedger.Files.Opening
import ThreatLedger.Ledger.Operations
import ThreatLedger.Stix.Catalog
import ThreatLedger.Store.ReadOnly

namespace ThreatLedger.CommandLine

/-! ## Surroundings -/

/-- What the environment says about directories. -/
structure Environment where
  dataHome : Option String
  home : Option String
  deriving DecidableEq, Repr

/-- The name of the program's directory of data. -/
def programName : String := "ctiledger"

/-- The directory of data. -/
def Environment.dataDir (env : Environment) : String :=
  match env.dataHome <|> env.home.map (Path.join · ".local/share") with
  | some dir => Path.join dir programName
  | none => ".ctiledger"

/-- The configuration that is read where none is named. -/
def defaultConfig : String := "ctiledger.toml"

/-- The configuration in a file. -/
def readConfig (tree : Tree) (path : String) : Except Failure Config :=
  match tree.read path with
  | .error e => .error (.configUnreadable e)
  | .ok content =>
    match content.text? with
    | none => .error .configNotText
    | some text => (Config.parse text).elim (.error .configMalformed) .ok

/-- The configuration of a run. -/
def Invocation.configuration (inv : Invocation) (tree : Tree) : Except Failure Config :=
  match inv.config with
  | some path => readConfig tree path
  | none => if tree.holds defaultConfig then readConfig tree defaultConfig else .ok .empty

/-! ## Printing -/

/-- A line of text. -/
def textLine (s : String) : Bytes := Bytes.ofText (s ++ "\n")

/-- A value on lines of its own. -/
def valueLines (v : Json.Value) : Bytes := v.prettyText ++ Bytes.ofText "\n"

/-! ## Commands -/

/-- The namespace of the ledger. -/
def ledgerSpace : String := "cti"

/-- The namespace of the catalog. -/
def catalogSpace : String := "stix"

/-- The namespace that a command works in. -/
def Command.space : Command → String
  | .init | .create _ | .read _ | .update _ | .delete _ | .list _ => ledgerSpace
  | .stixCreate .. | .stixRead .. | .stixList => catalogSpace

variable {σ : Type} [Store σ]

/-- Lists one page, or all records. -/
def listing (session : Session) (o : ListOptions) : Action σ LedgerError Bytes := do
  if o.all then
    let records ← Ledger.listAll session o.size o.bookmark
    pure (valueLines (.array (records.map Record.schema.value)))
  else
    let page ← Ledger.list session o.size o.bookmark
    pure (valueLines (Page.schema.value page))

/-- Stores a new record and says under which UUID. -/
def creation (session : Session) (record : Record) : Action σ LedgerError Bytes := do
  Ledger.create session record
  pure (textLine ("CTI UUID: " ++ record.uuid))

/-- Replaces a record by the one in a text. -/
def replacement (session : Session) (text : String) : Action σ LedgerError Bytes := do
  let record ← .ofExcept (Ledger.parseRecord text)
  Ledger.update session record
  pure (textLine "Updated.")

/-- An action on records or objects among those of commands. -/
def ofLedger (x : Action σ LedgerError Bytes) : Action σ Failure Bytes := x.mapError .ledger

/-- Carries out a command; what it needs from files is read first. -/
def Command.work (command : Command) (session : Session) (sender : Option String)
    (generated : Generated) (tree : Tree) : Action σ Failure Bytes :=
  match command with
  | .init => ofLedger do
    Ledger.init session
    pure (textLine "Ledger initialized.")
  | .create o => do
    let record ← .ofExcept (o.record sender generated tree)
    ofLedger (creation session record)
  | .read uuid => ofLedger do
    let record ← Ledger.read session uuid
    pure (valueLines (Record.schema.value record))
  | .update text => ofLedger (replacement session text)
  | .delete uuid => ofLedger do
    Ledger.delete session uuid
    pure (textLine ("Deleted " ++ uuid ++ "."))
  | .list o => ofLedger (listing session o)
  | .stixCreate kind text => ofLedger do
    let object ← Stix.Catalog.create kind text
    pure (textLine ("Stored " ++ object.id ++ "."))
  | .stixRead kind id => ofLedger do
    let object ← Stix.Catalog.read kind id
    pure (valueLines object.value)
  | .stixList => ofLedger do
    let values ← Stix.Catalog.all
    pure (valueLines (.array values))

/-! ## Runs -/

/-- What a run prints or why it fails, the tree that it leaves behind, and what it reports. -/
abbrev RunOutcome := Outcome Tree Failure Bytes

/-- Makes the directory of a database. -/
def prepareDirectory (tree : Tree) (path : String) : Except FileFailure Tree :=
  match Path.parent? path with
  | none | some "" => .ok tree
  | some directory => tree.makeDirectories directory

/-- Runs a command on a database that has been opened, and closes it afterwards. -/
def runOn (inv : Invocation) (config : Config) (generated : Generated) (tree : Tree)
    (opened : Opened) : RunOutcome :=
  let connection : Connection := ⟨0, inv.command.space⟩
  let session : Session := ⟨config.caller inv.role, config.mode⟩
  let sender := config.senderRole inv.role
  let work : Action DatabaseStore Failure Bytes :=
    if opened.writable then inv.command.work session sender generated tree
    else ReadOnlyStore.within (inv.command.work session sender generated tree)
  let o := work.run ⟨opened.database, connection⟩
  ⟨o.result, tree.keepDatabase opened.place (o.store.database.close connection), o.events⟩

/-- Runs an invocation. -/
def Invocation.run (inv : Invocation) (env : Environment) (generated : Generated) (tree : Tree) :
    RunOutcome :=
  match inv.configuration tree with
  | .error e => ⟨.error e, tree, []⟩
  | .ok config =>
    let name := config.databasePath env.dataDir
    match prepareDirectory tree name with
    | .error e => ⟨.error (.files e), tree, []⟩
    | .ok tree =>
      let opening := Event.opening name config.mode
      match tree.openDatabase name with
      | (tree, .error e) => ⟨.error (.ledger (.store e)), tree, [opening]⟩
      | (tree, .ok opened) =>
        let o := runOn inv config generated tree opened
        { o with events := opening :: o.events }

/-! ## Logging -/

/-- The least severity that a verbosity shows. -/
def threshold (verbosity : Nat) : Severity :=
  if verbosity = 0 then .warn else if verbosity = 1 then .info else .debug

/-- Whether a verbosity shows an event. -/
def shows (verbosity : Nat) (e : Event) : Bool := e.severity.rank ≤ (threshold verbosity).rank

/-- The severities in a log with the number of shown events of each. -/
def logCounts (verbosity : Nat) (events : List Event) : List (Severity × Nat) :=
  let shown := events.filter (shows verbosity)
  let counts := [Severity.error, .warn, .info, .debug].map fun x =>
    (x, (shown.filter (·.severity = x)).length)
  counts.filter (·.2 ≠ 0)

end ThreatLedger.CommandLine
