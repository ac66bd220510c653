/-
  The record that a `create` command submits.

  1. **As a document** — a whole record as JSON; no other option counts then.
  2. **From options** — what is not given is generated, taken from the caller, or empty.  The digest may be
     computed from a file.
-/
import ThreatLedger.CommandLine.Generated
import ThreatLedger.CommandLine.Invocation
import ThreatLedger.Digest.Sha256
import ThreatLedger.Files.Tree
import ThreatLedger.Ledger.Operations

namespace ThreatLedger.CommandLine

/-- Why a command fails. -/
inductive Failure
  | unreadable (path : String) (cause : FileFailure)
  | configUnreadable (cause : FileFailure)
  | configNotText
  | configMalformed
  | files (cause : FileFailure)
  | ledger (cause : LedgerError)
  deriving DecidableEq, Repr

/-- The message of a failure. -/
def Failure.message : Failure → String
  | .unreadable path cause => "failed to read " ++ path ++ ": " ++ cause.message
  | .configUnreadable cause => "failed to read config: " ++ cause.message
  | .configNotText => "failed to read config: stream did not contain valid UTF-8"
  | .configMalformed => "failed to parse config"
  | .files cause => cause.message
  | .ledger cause => cause.message

/-- The digest of a file in hexadecimal digits. -/
def fileDigest (tree : Tree) (path : String) : Except Failure String :=
  match tree.read path with
  | .ok content => .ok (Sha256.digest content).hex
  | .error e => .error (.unreadable path e)

/-- The digest that options give. -/
def CreateOptions.digest (o : CreateOptions) (tree : Tree) : Except Failure String :=
  match o.file with
  | some path => fileDigest tree path
  | none => .ok o.sha256

/-- The record that options describe; `sender` is the role of the caller. -/
def CreateOptions.record (o : CreateOptions) (sender : Option String) (generated : Generated)
    (tree : Tree) : Except Failure Record :=
  match o.json with
  | some text => (Ledger.parseRecord text).mapError .ledger
  | none => do
    let sha256 ← o.digest tree
    .ok { uuid := o.uuid.getD generated.uuid
          description := o.description
          timestamp := o.timestamp.getD generated.time
          sender := (o.sender <|> sender).getD ""
          cid := o.cid
          vaultKey := o.vaultKey
          sha256 := sha256
          access := o.access }

end ThreatLedger.CommandLine
