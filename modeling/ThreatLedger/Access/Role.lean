/-
  Roles, and the operations they are judged for.

  1. **Roles** — the recognized roles are a closed set, the most privileged first.  Any other name is kept
     as it is and has no privilege at all.
  2. **Operations** — what a caller may ask of the ledger.
-/
namespace ThreatLedger

/-- The role of a caller. -/
inductive Role
  | headOfOperations
  | specialOperationsUnit
  | intelligenceUnit
  | tacticalUnit
  | unrecognized (name : String)
  deriving DecidableEq, Repr

namespace Role

/-- The attribute of a caller that holds the role. -/
def attributeName : String := "role"

/-- Every recognized role, the most privileged first. -/
def recognized : List Role :=
  [.headOfOperations, .specialOperationsUnit, .intelligenceUnit, .tacticalUnit]

/-- The name of a role. -/
def name : Role → String
  | .headOfOperations => "HeadOfOperations"
  | .specialOperationsUnit => "SpecialOperationsUnit"
  | .intelligenceUnit => "IntelligenceUnit"
  | .tacticalUnit => "TacticalUnit"
  | .unrecognized name => name

/-- The role with a name; letters and their case have to match. -/
def ofName (name : String) : Role :=
  (recognized.find? (·.name = name)).getD (.unrecognized name)

/-- Whether a role is one of the recognized ones. -/
def isRecognized : Role → Bool
  | .unrecognized _ => false
  | _ => true

/-- A role keeps the name that it is given by, be it one of those that the rules know or not, so that
names can stand for roles in reports and errors. -/
theorem name_ofName (s : String) : (ofName s).name = s := by
  unfold ofName
  cases h : recognized.find? (·.name = s) with
  | none => rfl
  | some r => simpa using List.find?_some h

/-- A role that the rules know is found by its name; one that merely carries such a name would be taken
for it. -/
theorem ofName_name {r : Role} (h : r.isRecognized) : ofName r.name = r := by
  cases r with
  | unrecognized s => cases h
  | _ => rfl

end Role

/-! ## Operations -/

/-- What a caller may ask of the ledger. -/
inductive Operation
  | init
  | create
  | read
  | update
  | delete
  | list
  deriving DecidableEq, Repr

namespace Operation

/-- The name of an operation. -/
def name : Operation → String
  | .init => "InitLedger"
  | .create => "Create"
  | .read => "Read"
  | .update => "Update"
  | .delete => "Delete"
  | .list => "List"

/-- What an operation does, in the words of a refusal. -/
def action : Operation → String
  | .init => "invoke InitLedger"
  | .create => "create CTI metadata"
  | .read => "read CTI metadata"
  | .update => "update CTI metadata"
  | .delete => "delete CTI metadata"
  | .list => "access CTI metadata"

end Operation
end ThreatLedger
