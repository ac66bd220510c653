/-
  Scripts: store calls as data, and what they answer.

  1. **Calls** — one call of a store; a scan is answered by its entries, taken out of the page one by one.
  2. **Steps** — a call, or a block of steps that runs as one invocation.  A block stops at the first step
     that fails unless it keeps going, and may fail on its own at the end.
  3. **Answers** — a block answers with the answers of its steps and why it failed, if it did.
-/
import ThreatLedger.Store.Basic

namespace ThreatLedger

namespace Script

/-- A call of a store. -/
inductive Call
  | get (key : String)
  | put (key : String) (value : Bytes)
  | delete (key : String)
  | scan (range : Scan)
  | begin
  | commit
  | rollback
  deriving DecidableEq, Repr

/-- A step of a script: a call, or a block of steps in one invocation. -/
inductive Step
  | call (call : Call)
  | block (steps : List Step) (keepsGoing : Bool) (failure : Option String)

/-- What a call answers. -/
inductive Reply
  | done
  | value (value : Option Bytes)
  | page (page : ScanPage)
  deriving DecidableEq, Repr

/-- What a step answers. -/
inductive Answer
  | reply (reply : Except StoreError Reply)
  | block (answers : List Answer) (failure : Option StoreError)

/-- Whether an answer is an error of a call. -/
def Answer.isError : Answer → Bool
  | .reply (.error _) => true
  | .reply (.ok _) | .block .. => false

variable {σ ε : Type} [Store σ]

/-- Takes entries out of a page, one by one. -/
def takeEntries : List Entry → Action σ StoreError (List Entry)
  | [] => pure []
  | e :: es => do
    let e ← Store.entry e
    let es ← takeEntries es
    pure (e :: es)

/-- Makes a call. -/
def Call.run : Call → Action σ StoreError Reply
  | .get key => Reply.value <$> Store.get key
  | .put key value => (fun _ => .done) <$> Store.put key value
  | .delete key => (fun _ => .done) <$> Store.delete key
  | .scan range => do
    let page ← Store.scan range
    let entries ← takeEntries page.entries
    pure (.page ⟨entries, page.bookmark⟩)
  | .begin => (fun _ => .done) <$> Store.begin
  | .commit => (fun _ => .done) <$> Store.commit
  | .rollback => (fun _ => .done) <$> Store.rollback

/-! ## Blocks -/

/-- A store with the answers of the steps so far, the last one first. -/
structure Transcript (σ : Type) where
  store : σ
  answers : List Answer

namespace Transcript

variable {α : Type}

/-- Acts on the store of a transcript. -/
def within (x : Action σ ε α) : Action (Transcript σ) ε α := fun t =>
  let o := x t.store
  ⟨o.result, { t with store := o.store }, o.events⟩

/-- Acts on the store of a transcript and writes the answer down. -/
def record (x : Action σ ε Answer) : Action (Transcript σ) ε Answer := do
  let answer ← within x
  fun t => ⟨.ok answer, { t with answers := answer :: t.answers }, []⟩

instance : Store (Transcript σ) where
  get key := within (Store.get key)
  put key value := within (Store.put key value)
  delete key := within (Store.delete key)
  scan scan := within (Store.scan scan)
  entry e := within (Store.entry e)
  begin := within Store.begin
  commit := within Store.commit
  rollback := within Store.rollback
  contents t := Store.contents t.store

end Transcript

/-- The error of a block that stops at a step. -/
def stopped : StoreError := .failed "step failed"

/-- The result of a block whose steps have been carried out. -/
def blockResult (failure : Option String) : Action (Transcript σ) StoreError Unit :=
  match failure with
  | some reason => .fail (.failed reason)
  | none => pure ()

mutual

/-- Carries a step out. -/
def Step.run : Step → Action σ StoreError Answer
  | .call call => Answer.reply <$> call.run.attempt
  | .block steps keepsGoing failure => fun s =>
    let o := (atomically do
      runSteps keepsGoing steps
      blockResult failure : Action (Transcript σ) StoreError Unit) ⟨s, []⟩
    let failure :=
      match o.result with
      | .ok () => none
      | .error e => some e
    ⟨.ok (.block o.store.answers.reverse failure), o.store.store, o.events⟩

/-- Carries the steps of a block out. -/
def runSteps (keepsGoing : Bool) : List Step → Action (Transcript σ) StoreError Unit
  | [] => pure ()
  | step :: steps => do
    let answer ← Transcript.record step.run
    if answer.isError && !keepsGoing then .fail stopped else runSteps keepsGoing steps

end

end Script
end ThreatLedger
