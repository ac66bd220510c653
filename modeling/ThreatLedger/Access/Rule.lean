/-
  Who may do what.

  1. **Modes** — role-based access, or open access, which allows everything and asks nobody who they are.
  2. **Requests** — an operation with the record or UUID that it is about.
  3. **Rules** — `Role.mayRead` and `Role.mayUpdate` judge a record by its sender and its access list; the
     other operations depend on the role alone (`Role.may`).
  4. **Decisions** — `Mode.check` allows a request or denies it, and a `Denial` says whom and what.
-/
import ThreatLedger.Access.Role
import ThreatLedger.Record.Basic

namespace ThreatLedger

/-! ## Modes and requests -/

/-- How access is enforced. -/
inductive Mode
  | rbac
  | openAccess
  deriving DecidableEq, Repr

/-- The name of a mode in a configuration. -/
def Mode.name : Mode → String
  | .rbac => "rbac"
  | .openAccess => "open_access"

/-- Every mode. -/
def Mode.all : List Mode := [.rbac, .openAccess]

/-- The mode with a name. -/
def Mode.ofName? (name : String) : Option Mode := Mode.all.find? (·.name = name)

/-- Whether a caller must have a role. -/
def Mode.requiresIdentity (m : Mode) : Bool := m == .rbac

/-- An operation, with what it is about: an update is judged by the record that is stored. -/
inductive Request
  | init
  | create
  | read (record : Record)
  | update (stored : Record)
  | delete (uuid : String)
  | list
  deriving DecidableEq, Repr

namespace Request

/-- The operation that is requested. -/
def operation : Request → Operation
  | .init => .init
  | .create => .create
  | .read _ => .read
  | .update _ => .update
  | .delete _ => .delete
  | .list => .list

/-- The UUID of the record that a request is about. -/
def target : Request → Option String
  | .read record => some record.uuid
  | .update stored => some stored.uuid
  | .delete uuid => some uuid
  | .init | .create | .list => none

end Request

/-! ## Rules -/

/-- Whether a record's access list names a role. -/
def Record.grants (r : Record) (role : Role) : Bool := r.access.contains role.name

/-- Whether a record was sent by a role. -/
def Record.sentBy (r : Record) (role : Role) : Bool := r.sender == role.name

namespace Role

/-- Whether a role may see a record.  The intelligence unit must both have sent it and be granted it. -/
def mayRead (role : Role) (record : Record) : Bool :=
  match role with
  | .headOfOperations | .specialOperationsUnit => true
  | .intelligenceUnit => record.sentBy role && record.grants role
  | .tacticalUnit => record.grants role
  | .unrecognized _ => false

/-- Whether a role may replace a stored record. -/
def mayUpdate (role : Role) (stored : Record) : Bool :=
  match role with
  | .headOfOperations => true
  | .specialOperationsUnit => !stored.sentBy .headOfOperations
  | .intelligenceUnit => stored.sentBy role && stored.grants role
  | .tacticalUnit | .unrecognized _ => false

/-- Whether a role may make a request. -/
def may (role : Role) : Request → Bool
  | .init | .delete _ => role == .headOfOperations
  | .create =>
    role == .headOfOperations || role == .specialOperationsUnit || role == .intelligenceUnit
  | .list => role.isRecognized
  | .read record => role.mayRead record
  | .update stored => role.mayUpdate stored

end Role

/-! ## Decisions -/

/-- A refusal: the role that asked, the operation, and the record it was about. -/
structure Denial where
  role : Role
  operation : Operation
  target : Option String
  deriving DecidableEq, Repr

/-- A refusal in words. -/
def Denial.reason (d : Denial) : String :=
  "client role " ++ d.role.name ++ " is not authorized to " ++ d.operation.action
    ++ match d.target with
      | some id => " with UUID " ++ id
      | none => ""

/-- The answer to a request. -/
inductive Decision
  | allow
  | deny (d : Denial)
  deriving DecidableEq, Repr

/-- Whether a request is allowed. -/
def Decision.isAllowed : Decision → Bool
  | .allow => true
  | .deny _ => false

/-- Judges a request. -/
def Mode.check (mode : Mode) (role : Role) (request : Request) : Decision :=
  match mode with
  | .openAccess => .allow
  | .rbac =>
    if role.may request then .allow else .deny ⟨role, request.operation, request.target⟩

/-- Whether a role sees a record. -/
def Mode.canRead (mode : Mode) (role : Role) (record : Record) : Bool :=
  (mode.check role (.read record)).isAllowed

end ThreatLedger
