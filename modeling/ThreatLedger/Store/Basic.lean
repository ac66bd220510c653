/-
  Stores: ordered maps from keys to bytes that are changed in invocations.

  1. **Calls** — `Store` lists what a store can be asked.  Between `begin` and `commit` its writes are
     seen by its own reads, and `rollback` takes them back.
  2. **Scans** — a scan asks for one page of a range of keys; the bookmark of a page is the key at which
     the next one starts, and empty at the end.
  3. **Invocations** — `atomically` runs an action as one invocation: it commits if the action succeeds
     and rolls back if it fails.
-/
import ThreatLedger.Bytes
import ThreatLedger.Store.Action

namespace ThreatLedger

/-- A key with its bytes. -/
abbrev Entry := String × Bytes

/-! ## Scans -/

/-- A page of the keys from `start` on, before `stop` unless that is empty; a bookmark of an earlier page
goes on where that page stopped. -/
structure Scan where
  start : String
  stop : String
  size : Int
  bookmark : String
  deriving DecidableEq, Repr

/-- A page of entries, and where the next page starts. -/
structure ScanPage where
  entries : List Entry
  bookmark : String
  deriving DecidableEq, Repr

/-- Whether more entries follow. -/
def ScanPage.hasMore (p : ScanPage) : Bool := p.bookmark ≠ ""

namespace Scan

/-- How many entries a page holds at most. -/
def limit (scan : Scan) : Except StoreError Nat :=
  if scan.size ≤ 0 then .error (.invalidPageSize scan.size) else .ok scan.size.toNat

/-- The first key that a page may hold. -/
def origin (scan : Scan) : String :=
  if scan.start < scan.bookmark then scan.bookmark else scan.start

/-- Whether a key lies before the end of the range. -/
def before (scan : Scan) (key : String) : Bool := scan.stop = "" || key < scan.stop

/-- Whether no key can lie in what is left of the range. -/
def exhausted (scan : Scan) : Bool := !scan.before scan.origin

/-- The scan of all keys, a page at a time. -/
def all (size : Int) (bookmark : String) : Scan := ⟨"", "", size, bookmark⟩

end Scan

/-! ## Calls -/

/-- What a store can be asked.  `entry` takes one entry out of a page, and `contents` is what reads see:
every key with its bytes, in order. -/
class Store (σ : Type) where
  get : String → Action σ StoreError (Option Bytes)
  put : String → Bytes → Action σ StoreError Unit
  delete : String → Action σ StoreError Unit
  scan : Scan → Action σ StoreError ScanPage
  entry : Entry → Action σ StoreError Entry
  begin : Action σ StoreError Unit
  commit : Action σ StoreError Unit
  rollback : Action σ StoreError Unit
  contents : σ → List Entry

/-- The errors that an error of a store can be among. -/
class StoreFailure (ε : Type) where
  ofStore : StoreError → ε

instance : StoreFailure StoreError := ⟨id⟩

variable {σ ε α : Type}

/-- An action of a store among actions with more errors. -/
def Action.lift [StoreFailure ε] (x : Action σ StoreError α) : Action σ ε α :=
  x.mapError StoreFailure.ofStore

/-- Among more errors, an action of a store is the same but for the names of its failures: it leaves the
same store and reports the same events. -/
theorem Action.run_lift [StoreFailure ε] (x : Action σ StoreError α) (s : σ) :
    (x.lift : Action σ ε α).run s =
      ⟨(x.run s).result.mapError StoreFailure.ofStore, (x.run s).store, (x.run s).events⟩ := rfl

/-- What succeeds does so with the same answer, store and events among more errors. -/
theorem Action.run_lift_ok [StoreFailure ε] {x : Action σ StoreError α} {s s' : σ} {a : α}
    {events : List Event} (h : x.run s = ⟨.ok a, s', events⟩) :
    (x.lift : Action σ ε α).run s = ⟨.ok a, s', events⟩ := by
  rw [run_lift, h]
  rfl

/-- What fails does so with the same error of the store, now one cause among others. -/
theorem Action.run_lift_error [StoreFailure ε] {x : Action σ StoreError α} {s s' : σ}
    {e : StoreError} {events : List Event} (h : x.run s = ⟨.error e, s', events⟩) :
    (x.lift : Action σ ε α).run s = ⟨.error (StoreFailure.ofStore e), s', events⟩ := by
  rw [run_lift, h]
  rfl

/-! ## Invocations -/

/-- Ends an invocation whose action has failed. -/
def abandon [Store σ] : Action σ ε Unit := do
  match ← (Store.rollback : Action σ StoreError Unit).attempt with
  | .ok () => pure ()
  | .error e => .report (.rollbackFailed e)

/-- Runs an action as one invocation: commits if it succeeds, rolls back if it fails. -/
def atomically [Store σ] [StoreFailure ε] (x : Action σ ε α) : Action σ ε α := do
  Store.begin.lift
  match ← x.attempt with
  | .ok a =>
    Store.commit.lift
    pure a
  | .error e =>
    abandon
    .fail e

end ThreatLedger
