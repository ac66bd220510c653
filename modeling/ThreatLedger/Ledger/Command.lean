/-
  The operations of the ledger as data.

  1. **Commands** — an operation with its input; a record is submitted as such or as a text.
  2. **Replies** — what a command answers when it succeeds.
  3. **Runs** — commands one after the other, each in a session of its own: callers and modes may change
     from one to the next.
-/
import ThreatLedger.Ledger.Operations

namespace ThreatLedger.Ledger

/-- An operation with its input. -/
inductive Command
  | init
  | create (record : Record)
  | createText (text : String)
  | read (uuid : String)
  | update (record : Record)
  | updateText (text : String)
  | delete (uuid : String)
  | list (size : Int) (bookmark : String)
  deriving DecidableEq, Repr

/-- What a command answers. -/
inductive Reply
  | done
  | record (record : Record)
  | page (page : Page)
  deriving DecidableEq, Repr

variable {σ : Type} [Store σ]

/-- An action that answers nothing, as a command's. -/
def done (x : Action σ LedgerError Unit) : Action σ LedgerError Reply := (fun _ => .done) <$> x

/-- Carries a command out. -/
def Command.run (session : Session) : Command → Action σ LedgerError Reply
  | .init => done (Ledger.init session)
  | .create record => done (Ledger.create session record)
  | .createText text => done do
    let record ← .ofExcept (parseRecord text)
    Ledger.create session record
  | .read uuid => Reply.record <$> Ledger.read session uuid
  | .update record => done (Ledger.update session record)
  | .updateText text => done do
    let record ← .ofExcept (parseRecord text)
    Ledger.update session record
  | .delete uuid => done (Ledger.delete session uuid)
  | .list size bookmark => Reply.page <$> Ledger.list session size bookmark

/-! ## Runs -/

/-- Commands as actions. -/
def actions (steps : List (Session × Command)) : List (Action σ LedgerError Reply) :=
  steps.map fun step => step.2.run step.1

/-- The outcomes of commands one after the other. -/
def outcomes (s : σ) (steps : List (Session × Command)) : List (Outcome σ LedgerError Reply) :=
  Action.outcomes s (actions steps)

/-- The answers of a store to commands one after the other, and the store afterwards. -/
def runAll (s : σ) (steps : List (Session × Command)) : List (Except LedgerError Reply) × σ :=
  Action.runAll s (actions steps)

/-- The stores of a run: the one that it begins with, and the one after each command. -/
def stages (s : σ) (steps : List (Session × Command)) : List σ := Action.stages s (actions steps)

/-- Commands of callers under enforcement. -/
def enforced (steps : List (Caller × Command)) : List (Session × Command) :=
  steps.map fun step => (⟨step.1, .rbac⟩, step.2)

end ThreatLedger.Ledger
