/-
  Why an operation of the ledger fails.

  1. **Causes** — one constructor a cause; the error of a store is one of them.
  2. **Wording** — `LedgerError.message`.
-/
import ThreatLedger.Access.Caller
import ThreatLedger.Json.Error
import ThreatLedger.Stix.Kind
import ThreatLedger.Store.Basic

namespace ThreatLedger

/-- What an operation is about: a metadata record, or a STIX object of a kind. -/
inductive Subject
  | metadata
  | object (kind : Stix.Kind)
  deriving DecidableEq, Repr

/-- The name of a subject where a text is parsed. -/
def Subject.textName : Subject → String
  | .metadata => "metadata"
  | .object kind => kind.name

/-- The name of a subject where one is looked for. -/
def Subject.name : Subject → String
  | .metadata => "CTI metadata"
  | .object kind => kind.name

/-- What is wrong with an input that could be read. -/
inductive Flaw
  | emptyFields (names : List String)
  | pageSize (size : Int)
  | typeTag (kind : Stix.Kind) (tag : String)
  | missingProperties (kind : Stix.Kind) (names : List String)
  deriving DecidableEq, Repr

/-- A flaw in words. -/
def Flaw.text : Flaw → String
  | .emptyFields names =>
    "all fields in metadata must be non-empty (empty: " ++ ", ".intercalate names ++ ")"
  | .pageSize size => "page size must be positive, got " ++ toString size
  | .typeTag kind tag => "asset type must be '" ++ kind.name ++ "', got '" ++ tag ++ "'"
  | .missingProperties kind names =>
    kind.name ++ " is missing required properties: " ++ ", ".intercalate names

/-- Why an operation fails. -/
inductive LedgerError
  | parse (subject : Subject) (cause : Json.Error)
  | invalid (flaw : Flaw)
  | roleMissing
  | identity (failure : IdentityFailure)
  | unauthorized (denial : Denial)
  | forbidden (role : Role) (operation : Operation) (uuid : String)
  | conflict (subject : Subject) (id : String)
  | notFound (subject : Subject) (id : String)
  | corrupt (key : String) (cause : Json.Error)
  | store (error : StoreError)
  deriving DecidableEq, Repr

instance : StoreFailure LedgerError := ⟨.store⟩

/-- The message of an error. -/
def LedgerError.message : LedgerError → String
  | .parse subject cause => "failed to parse " ++ subject.textName ++ ": " ++ cause.message
  | .invalid flaw => "validation failed: " ++ flaw.text
  | .roleMissing => "client role not found"
  | .identity failure => failure.message
  | .unauthorized denial => "unauthorized: " ++ denial.reason
  | .forbidden role operation uuid => "forbidden: " ++ (Denial.mk role operation uuid).reason
  | .conflict subject id => subject.name ++ " with ID " ++ id ++ " already exists"
  | .notFound subject id => subject.name ++ " with ID " ++ id ++ " does not exist"
  | .corrupt key cause => "failed to (de)serialize " ++ key ++ ": " ++ cause.message
  | .store error => error.message

end ThreatLedger
