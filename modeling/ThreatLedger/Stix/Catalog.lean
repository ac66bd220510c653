/-
  The catalog of STIX objects: objects stored under their ids, whatever their kind.

  1. **Submission** — `admissible` parses a text as an object of a kind and says what is wrong with it.
  2. **Operations** — `create` stores a new object, as one invocation; `read` and `holds` look one up.
  3. **All objects** — `all` goes through the whole store page by page, in the order of the keys, and
     answers with every value as it is.
-/
import ThreatLedger.Ledger.Error
import ThreatLedger.Stix.Object

namespace ThreatLedger.Stix.Catalog

variable {σ : Type} [Store σ]

/-! ## Submission -/

/-- What is wrong with an object that is submitted as one of a kind. -/
def flaw? (kind : Kind) (o : Object) : Option Flaw :=
  if o.typeTag ≠ kind.name then some (.typeTag kind o.typeTag)
  else if !o.missing.isEmpty then some (.missingProperties kind o.missing)
  else none

/-- The object of a kind that a text submits. -/
def admissible (kind : Kind) (text : String) : Except LedgerError Object :=
  match Object.parse kind (Bytes.ofText text) with
  | .error e => .error (.parse (.object kind) e)
  | .ok o =>
    match flaw? kind o with
    | some flaw => .error (.invalid flaw)
    | none => .ok o

/-! ## Operations -/

/-- Whether an id is taken. -/
def holds (id : String) : Action σ LedgerError Bool := do
  let value ← (Store.get id).lift
  pure value.isSome

/-- Stores an object under its id, which has to be free. -/
def storeNew (kind : Kind) (o : Object) : Action σ LedgerError Unit := do
  if ← holds o.id then .fail (.conflict (.object kind) o.id)
  (Store.put o.id o.encode).lift
  .report (.objectStored kind o.id)

/-- Stores a new object. -/
def create (kind : Kind) (text : String) : Action σ LedgerError Object := do
  let o ← .ofExcept (admissible kind text)
  atomically (storeNew kind o)
  pure o

/-- The object of a kind that is stored under an id. -/
def read (kind : Kind) (id : String) : Action σ LedgerError Object := do
  match ← (Store.get id).lift with
  | none => .fail (.notFound (.object kind) id)
  | some value => .ofExcept ((Object.parse kind value).mapError (.corrupt id))

/-! ## All objects -/

/-- How many entries are taken out of the store at a time. -/
def pageSize : Int := 100

/-- The values of a page's entries. -/
def decodeEntries : List Entry → Action σ LedgerError (List Json.Value)
  | [] => pure []
  | e :: es => do
    let e ← (Store.entry e).lift
    let value ← .ofExcept ((Json.Value.parse e.2).mapError (.corrupt e.1))
    let values ← decodeEntries es
    pure (value :: values)

/-- The stored values from a bookmark on: of one page, and after it of at most as many more as are
given. -/
def allFrom : Nat → String → Action σ LedgerError (List Json.Value)
  | more, bookmark => do
    let page ← (Store.scan (.all pageSize bookmark)).lift
    let values ← decodeEntries page.entries
    if page.bookmark = "" then pure values
    else
      match more with
      | 0 => pure values
      | more + 1 => do
        let rest ← allFrom more page.bookmark
        pure (values ++ rest)

/-- Every stored value, in the order of the keys.  Every page but the last one goes past a stored key, so
there are no more pages than keys and one. -/
def all : Action σ LedgerError (List Json.Value) := fun s =>
  allFrom (Store.contents s).length "" s

/-! ## Commands -/

/-- An operation with its input. -/
inductive Command
  | create (kind : Kind) (text : String)
  | read (kind : Kind) (id : String)
  | holds (id : String)
  | all
  deriving DecidableEq, Repr

/-- What a command answers. -/
inductive Reply
  | object (o : Object)
  | flag (b : Bool)
  | values (vs : List Json.Value)
  deriving DecidableEq, Repr

/-- Carries a command out. -/
def Command.run : Command → Action σ LedgerError Reply
  | .create kind text => Reply.object <$> Catalog.create kind text
  | .read kind id => Reply.object <$> Catalog.read kind id
  | .holds id => Reply.flag <$> Catalog.holds id
  | .all => Reply.values <$> Catalog.all

end ThreatLedger.Stix.Catalog
