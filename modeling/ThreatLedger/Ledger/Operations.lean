/-
  The operations of the ledger.

  1. **Admission** — `judge` finds the role of the caller and judges a request; a refusal is reported.
  2. **Operations** — `init`, `create`, `read`, `update`, `delete` and `list`, each one invocation: all of
     its writes are kept or none.  A record is judged as it is stored, never as it is submitted.
  3. **Walks** — `walk` lists page after page until the bookmark is empty.

  A page is cut before the records that the caller may not see are left out of it, so it can be short, or
  empty, while more follow.
-/
import ThreatLedger.Ledger.Error
import ThreatLedger.Record.Encoding

namespace ThreatLedger.Ledger

variable {σ : Type} [Store σ]

/-! ## Admission -/

/-- The role that the rules judge. -/
def callerRole (session : Session) : Except LedgerError Role :=
  if session.mode.requiresIdentity then
    match session.caller.role with
    | .error failure => .error (.identity failure)
    | .ok none => .error .roleMissing
    | .ok (some role) => .ok role
  else .ok .anonymous

/-- The error that answers a refused request. -/
def refusal (denial : Denial) : Request → LedgerError
  | .read record | .update record => .forbidden denial.role denial.operation record.uuid
  | .init | .create | .delete _ | .list => .unauthorized denial

/-- Judges a request for a role. -/
def authorize (mode : Mode) (role : Role) (request : Request) : Action σ LedgerError Unit :=
  match mode.check role request with
  | .allow => pure ()
  | .deny denial => do
    .report (.denied denial)
    .fail (refusal denial request)

/-- Finds the caller's role and judges a request for it. -/
def judge (session : Session) (request : Request) : Action σ LedgerError Role := do
  let role ← .ofExcept (callerRole session)
  authorize session.mode role request
  pure role

/-! ## Records in a store -/

/-- Stores a record under its key. -/
def putRecord (record : Record) : Action σ LedgerError Unit :=
  (Store.put record.key record.encode).lift

/-- The record that is stored under a key. -/
def decodeStored (key : String) (value : Bytes) : Except LedgerError Record :=
  (Record.decode value).mapError (.corrupt key)

/-- The stored record with a UUID. -/
def load (uuid : String) : Action σ LedgerError Record := do
  match ← (Store.get (Record.keyOf uuid)).lift with
  | none => .fail (.notFound .metadata uuid)
  | some value => .ofExcept (decodeStored (Record.keyOf uuid) value)

/-- Whether a key is stored. -/
def isStored (key : String) : Action σ LedgerError Bool := do
  let value ← (Store.get key).lift
  pure value.isSome

/-! ## Operations -/

/-- Writes the seed records, over any that are there. -/
def writeSeeds (session : Session) : Action σ LedgerError Unit := do
  let role ← judge session .init
  Record.seeds.forM putRecord
  .report (.initialized role)

/-- Gives the ledger its seed records. -/
def init (session : Session) : Action σ LedgerError Unit := atomically (writeSeeds session)

/-- Whether all required fields of a record are filled. -/
def validate (record : Record) : Except LedgerError Unit :=
  if record.missingFields.isEmpty then .ok ()
  else .error (.invalid (.emptyFields record.missingFields))

/-- The record that a submitted text holds. -/
def parseRecord (text : String) : Except LedgerError Record :=
  (Record.parse text).mapError (.parse .metadata)

/-- Stores a record under a key that is free. -/
def storeNew (session : Session) (record : Record) : Action σ LedgerError Unit := do
  let role ← judge session .create
  if ← isStored record.key then .fail (.conflict .metadata record.uuid)
  putRecord record
  .report (.created record.uuid role)

/-- Stores a new record that is complete. -/
def create (session : Session) (record : Record) : Action σ LedgerError Unit := do
  .ofExcept (validate record)
  atomically (storeNew session record)

/-- Loads a record that the caller may see. -/
def fetch (session : Session) (uuid : String) : Action σ LedgerError Record := do
  let record ← load uuid
  let _ ← judge session (.read record)
  pure record

/-- Answers with a record that the caller may see. -/
def read (session : Session) (uuid : String) : Action σ LedgerError Record :=
  atomically (fetch session uuid)

/-- Whether two records differ in who may see or update them. -/
def rewritesVisibility (stored record : Record) : Bool :=
  stored.sender != record.sender || stored.access != record.access

/-- Puts a record in the place of the one that is stored. -/
def replace (session : Session) (record : Record) : Action σ LedgerError Unit := do
  let stored ← load record.uuid
  let role ← judge session (.update stored)
  if rewritesVisibility stored record then .report (.visibilityRewritten record role)
  putRecord record
  .report (.updated record.uuid role)

/-- Replaces a stored record as a whole. -/
def update (session : Session) (record : Record) : Action σ LedgerError Unit :=
  atomically (replace session record)

/-- Takes a stored record out of the store. -/
def remove (session : Session) (uuid : String) : Action σ LedgerError Unit := do
  if !(← isStored (Record.keyOf uuid)) then .fail (.notFound .metadata uuid)
  let role ← judge session (.delete uuid)
  (Store.delete (Record.keyOf uuid)).lift
  .report (.deleted uuid role)

/-- Removes a stored record. -/
def delete (session : Session) (uuid : String) : Action σ LedgerError Unit :=
  atomically (remove session uuid)

/-! ## Listing -/

/-- The records of a page's entries that a role may see, and how many it may not. -/
def sift (mode : Mode) (role : Role) : List Entry → Action σ LedgerError (List Record × Nat)
  | [] => pure ([], 0)
  | e :: es => do
    let e ← (Store.entry e).lift
    let record ← .ofExcept (decodeStored e.1 e.2)
    if mode.canRead role record then
      let (shown, withheld) ← sift mode role es
      pure (record :: shown, withheld)
    else
      .report (.hidden record.uuid role)
      let (shown, withheld) ← sift mode role es
      pure (shown, withheld + 1)

/-- Reads one page of the store, without the records that the caller may not see. -/
def browse (session : Session) (size : Int) (bookmark : String) : Action σ LedgerError Page := do
  let role ← judge session .list
  if size ≤ 0 then .fail (.invalid (.pageSize size))
  let page ← (Store.scan (.all size bookmark)).lift
  let (shown, withheld) ← sift session.mode role page.entries
  .report (.listed role shown.length withheld page.hasMore)
  pure ⟨shown, page.bookmark⟩

/-- Lists one page of the records that the caller may see. -/
def list (session : Session) (size : Int) (bookmark : String) : Action σ LedgerError Page :=
  atomically (browse session size bookmark)

/-- The pages of a walk, and the error that ended it, if one did. -/
structure Walk where
  pages : List Page
  error : Option LedgerError

/-- Lists pages from a bookmark on: one, and after it at most as many more as are given. -/
def walkFrom (session : Session) (size : Int) : Nat → String → Action σ LedgerError Walk
  | more, bookmark => do
    match ← (list session size bookmark).attempt with
    | .error e => pure ⟨[], some e⟩
    | .ok page =>
      if page.bookmark = "" then pure ⟨[page], none⟩
      else
        match more with
        | 0 => pure ⟨[page], none⟩
        | more + 1 => do
          let rest ← walkFrom session size more page.bookmark
          pure { rest with pages := page :: rest.pages }

/-- Lists page after page until the bookmark is empty or a page fails.  Every page but the last one goes
past a stored key, so there are no more pages than keys and one. -/
def walk (session : Session) (size : Int) (bookmark : String) : Action σ LedgerError Walk :=
  fun s => walkFrom session size (Store.contents s).length bookmark s

/-- The records of all pages. -/
def listAll (session : Session) (size : Int) (bookmark : String) :
    Action σ LedgerError (List Record) := do
  let walk ← walk session size bookmark
  match walk.error with
  | some e => .fail e
  | none => pure (walk.pages.flatMap (·.records))

end ThreatLedger.Ledger
