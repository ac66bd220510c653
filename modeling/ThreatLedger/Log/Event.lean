/-
  What is reported while the ledger works.

  1. **Events** — one constructor for each kind of report, with what it is about.
  2. **Form** — the severity, the message and the named fields of an event.
-/
import ThreatLedger.Access.Rule
import ThreatLedger.Stix.Kind
import ThreatLedger.Store.Error
import ThreatLedger.Text.Quoted

namespace ThreatLedger

/-- How grave an event is, the gravest first. -/
inductive Severity
  | error
  | warn
  | info
  | debug
  deriving DecidableEq, Repr

namespace Severity

/-- The name of a severity. -/
def name : Severity → String
  | .error => "ERROR"
  | .warn => "WARN"
  | .info => "INFO"
  | .debug => "DEBUG"

/-- The place of a severity among all, the gravest first. -/
def rank : Severity → Nat
  | .error => 0
  | .warn => 1
  | .info => 2
  | .debug => 3

end Severity

/-- What is reported. -/
inductive Event
  | denied (denial : Denial)
  | initialized (role : Role)
  | created (uuid : String) (role : Role)
  | updated (uuid : String) (role : Role)
  | deleted (uuid : String) (role : Role)
  | visibilityRewritten (record : Record) (role : Role)
  | hidden (uuid : String) (role : Role)
  | listed (role : Role) (shown withheld : Nat) (more : Bool)
  | objectStored (kind : Stix.Kind) (id : String)
  | scanned (space start : String) (returned : Nat)
  | rollbackFailed (error : StoreError)
  | opening (path : String) (mode : Mode)
  deriving DecidableEq, Repr

/-- The value of a field of an event. -/
inductive FieldValue
  | text (s : String)
  | count (n : Nat)
  | flag (b : Bool)
  deriving DecidableEq, Repr

namespace Event

/-- The severity of an event. -/
def severity : Event → Severity
  | .rollbackFailed _ => .error
  | .denied _ | .visibilityRewritten .. => .warn
  | .initialized _ | .created .. | .updated .. | .deleted .. | .objectStored .. => .info
  | .hidden .. | .listed .. | .scanned .. | .opening .. => .debug

/-- The message of an event. -/
def message : Event → String
  | .denied denial => denial.reason
  | .initialized _ => "ledger initialized"
  | .created .. => "CTI metadata created"
  | .updated .. => "CTI metadata updated"
  | .deleted .. => "CTI metadata deleted"
  | .visibilityRewritten .. => "update rewrites record visibility"
  | .hidden .. => "record hidden from caller"
  | .listed .. => "listed CTI metadata page"
  | .objectStored .. => "STIX object created"
  | .scanned .. => "range scan"
  | .rollbackFailed _ => "rollback failed"
  | .opening .. => "opening ledger"

/-- The fields of an event that is about a record. -/
def recordFields (uuid : String) (role : Role) : List (String × FieldValue) :=
  [("uuid", .text uuid), ("role", .text role.name)]

/-- The named fields of an event. -/
def fields : Event → List (String × FieldValue)
  | .denied denial => [("role", .text denial.role.name), ("operation", .text denial.operation.name)]
  | .initialized role => [("role", .text role.name)]
  | .created uuid role | .updated uuid role | .deleted uuid role | .hidden uuid role =>
    recordFields uuid role
  | .visibilityRewritten record role =>
    recordFields record.uuid role
      ++ [("sender_identity", .text record.sender),
        ("access_list", .text (Text.quotedList record.access))]
  | .listed role shown withheld more =>
    [("role", .text role.name), ("visible", .count shown), ("hidden", .count withheld),
      ("more", .flag more)]
  | .objectStored kind id => [("kind", .text kind.name), ("id", .text id)]
  | .scanned space start returned =>
    [("namespace", .text space), ("from", .text start), ("returned", .count returned)]
  | .rollbackFailed error => [("error", .text error.message)]
  | .opening path mode => [("db", .text path), ("mode", .text mode.name)]

end Event
end ThreatLedger
