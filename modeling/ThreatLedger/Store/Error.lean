/-
  The calls of a store, and why one fails.
-/
namespace ThreatLedger

/-- The kinds of calls to a store; `entry` is the taking of one entry out of a page. -/
inductive StoreCall
  | get
  | put
  | delete
  | scan
  | entry
  | begin
  | commit
  | rollback
  deriving DecidableEq, Repr

/-- The name of a call. -/
def StoreCall.name : StoreCall → String
  | .get => "get"
  | .put => "put"
  | .delete => "del"
  | .scan => "scan"
  | .entry => "entry"
  | .begin => "begin"
  | .commit => "commit"
  | .rollback => "rollback"

/-- Every kind of call. -/
def StoreCall.all : List StoreCall :=
  [.get, .put, .delete, .scan, .entry, .begin, .commit, .rollback]

/-- Why a call to a store fails. -/
inductive StoreError
  | database
  | invalidPageSize (size : Int)
  | alreadyOpen
  | notOpen
  | refused (call : StoreCall)
  | failed (reason : String)
  deriving DecidableEq, Repr

/-- The message of an error. -/
def StoreError.message : StoreError → String
  | .database => "database error"
  | .invalidPageSize size => "invalid page size: " ++ toString size ++ " (must be positive)"
  | .alreadyOpen => "transaction error: invocation already in progress"
  | .notOpen => "transaction error: no invocation in progress"
  | .refused call => "transaction error: " ++ call.name ++ " refused"
  | .failed reason => "transaction error: " ++ reason

end ThreatLedger
