/-
  The program: runs a command line on the files of the machine.

  1. **Loading** — the paths that a run can touch are looked up and put into a tree.
  2. **Saving** — what the run has made or changed is written back, and what it has removed is removed.
  3. **Printing** — output to standard output; events, errors and hints on usage to standard error.
-/
import Std.Time.DateTime.Timestamp
import ThreatLedger.CommandLine.Run
import ThreatLedger.Store.Snapshot

namespace ThreatLedger.CommandLine

/-! ## Loading -/

/-- What a file with some bytes is. -/
def nodeOf (content : Bytes) : Node :=
  match Snapshot.decode? content with
  | some d => .database d
  | none => .file content

/-- What stands at a path of the machine. -/
def lookUp (path : String) : IO (Option Node) := do
  try
    let content ← IO.FS.readBinFile path
    pure (some (nodeOf content.data.toList))
  catch e =>
    match e with
    | .inappropriateType _ 21 _ => pure (some .directory)
    | _ => pure none

/-- A tree with what stands at a place. -/
def loadPlace (t : Tree) (p : Place) : IO Tree := do
  if p.isGiven then pure t
  else
    match ← lookUp p.text with
    | some n => pure (t.place p n)
    | none => pure t

/-- A tree with what stands at the places that steps lead through. -/
def loadSteps (t : Tree) (p : Place) : List String → IO Tree
  | [] => pure t
  | s :: ss => do
    let p := p.go s
    loadSteps (← loadPlace t p) p ss

/-- A tree with what stands at a path and on the way to it. -/
def load (t : Tree) (path : String) : IO Tree := loadSteps t (Place.start path) (Path.steps path)

/-- A tree with what the opening of a database can meet. -/
def loadDatabase (t : Tree) (name : String) : IO Tree := do
  let t ← load t name
  match Locator.ofName? name with
  | none => pure t
  | some l =>
    let t ← load t l.path
    let t ← l.model.elim (pure t) (load t)
    match t.databasePlace l.path with
    | .error _ => pure t
    | .ok p => loadPlace (← loadPlace t p.journal) p.writeLog

/-- The tree that an invocation finds. -/
def loadFor (inv : Invocation) (env : Environment) : IO Tree := do
  let t ← load .empty (inv.config.getD defaultConfig)
  match inv.configuration t with
  | .error _ => pure t
  | .ok config =>
    let t ← loadDatabase t (config.databasePath env.dataDir)
    match inv.command with
    | .create o => o.file.elim (pure t) (load t)
    | _ => pure t

/-! ## Saving -/

/-- Whether a node is a database with given bytes. -/
def isStored (content : Bytes) : Option Node → Bool
  | some (.database d) => Snapshot.encode d = content
  | _ => false

/-- Writes what a run has changed, and takes away what it has removed. -/
def save (before after : Tree) : IO Unit := do
  for e in before.entries do
    if (KeyMap.get? after e.1).isNone then IO.FS.removeFile e.1
  for e in after.entries do
    let old := KeyMap.get? before e.1
    match e.2 with
    | .directory => if old.isNone then IO.FS.createDir e.1
    | .file content => if old.isNone then IO.FS.writeBinFile e.1 ⟨content.toArray⟩
    | .database d =>
      let content := Snapshot.encode d
      if !isStored content old then IO.FS.writeBinFile e.1 ⟨content.toArray⟩

/-! ## Printing -/

/-- The text of a field. -/
def fieldText : FieldValue → String
  | .text s => Text.quoted s
  | .count n => toString n
  | .flag b => if b then "true" else "false"

/-- The line that an event is logged as. -/
def logLine (time : String) (e : Event) : String :=
  " ".intercalate ([time, e.severity.name, e.message]
    ++ e.fields.map fun f => f.1 ++ "=" ++ fieldText f.2)

/-- How the program is called. -/
def usageText : String :=
  "Usage: ctiledger [--config FILE] [--role ROLE] [-v]... COMMAND\n\n"
    ++ "Commands:\n"
    ++ "  init                  Write the seed records\n"
    ++ "  create [OPTIONS]      Submit a new record\n"
    ++ "  read UUID             Show one record\n"
    ++ "  update JSON           Replace a record\n"
    ++ "  delete UUID           Remove a record\n"
    ++ "  list [OPTIONS]        List the records that the caller may see\n"
    ++ "  stix create KIND JSON Store a STIX object\n"
    ++ "  stix read KIND ID     Show a STIX object\n"
    ++ "  stix list             Show every STIX object\n"

/-- The name of the program with its version. -/
def versionText : String := "ctiledger 0.1.0\n"

/-- Says why there is nothing to run. -/
def printStop (stop : Stop) : IO Unit := do
  match stop with
  | .usage => (← IO.getStderr).putStr usageText
  | .help => (← IO.getStdout).putStr usageText
  | .version => (← IO.getStdout).putStr versionText

/-! ## Running -/

/-- The environment of the process. -/
def readEnvironment : IO Environment := do
  pure ⟨← IO.getEnv "XDG_DATA_HOME", ← IO.getEnv "HOME"⟩

/-- A new UUID and the time. -/
def generate : IO Generated := do
  let random ← IO.getRandomBytes 16
  let now ← Std.Time.Timestamp.now
  pure ⟨uuidText random.data.toList, timeText now.toSecondsSinceUnixEpoch.val.toNat⟩

/-- Runs an invocation on the machine; answers with the exit code. -/
def runOnMachine (inv : Invocation) : IO UInt32 := do
  let env ← readEnvironment
  let generated ← generate
  let before ← loadFor inv env
  let o := inv.run env generated before
  save before o.store
  let err ← IO.getStderr
  for e in o.events.filter (shows inv.verbosity) do
    err.putStrLn (logLine generated.time e)
  match o.result with
  | .ok out =>
    let stdout ← IO.getStdout
    stdout.write ⟨out.toArray⟩
    pure 0
  | .error e =>
    err.putStrLn ("Error: " ++ e.message)
    pure 1

end ThreatLedger.CommandLine

/-- Runs the program. -/
def main (args : List String) : IO UInt32 := do
  match ThreatLedger.CommandLine.parse args with
  | .ok inv => ThreatLedger.CommandLine.runOnMachine inv
  | .error stop =>
    ThreatLedger.CommandLine.printStop stop
    pure (UInt32.ofNat stop.exitCode)
