/-
  A store that refuses some of its calls.

  1. **Schedule** — which calls are refused, by their kind and how many of that kind came before.
  2. **Refusal** — a refused call fails and does nothing to the store beneath; it is counted all the same.
-/
import ThreatLedger.Store.Basic

namespace ThreatLedger

/-- Which calls are refused: a call of a kind, after so many others of that kind. -/
abbrev Schedule := StoreCall → Nat → Bool

/-- A store with a schedule of refusals and the calls so far. -/
structure RefusingStore (σ : Type) where
  store : σ
  refuses : Schedule
  calls : StoreCall → Nat

namespace RefusingStore

variable {σ α : Type}

/-- A store whose calls have not been counted yet. -/
def ofStore (store : σ) (refuses : Schedule) : RefusingStore σ := ⟨store, refuses, fun _ => 0⟩

/-- Counts a call. -/
def counted (s : RefusingStore σ) (call : StoreCall) : RefusingStore σ :=
  { s with calls := fun c => if c = call then s.calls c + 1 else s.calls c }

/-- Makes a call of the store beneath, unless it is refused. -/
def guarded (call : StoreCall) (x : Action σ StoreError α) :
    Action (RefusingStore σ) StoreError α := fun s =>
  if s.refuses call (s.calls call) then ⟨.error (.refused call), s.counted call, []⟩
  else
    let o := x s.store
    ⟨o.result, { s.counted call with store := o.store }, o.events⟩

/-- A refused call fails with the refusal and is counted; the store beneath does not get to see it. -/
theorem run_guarded_refused {call : StoreCall} {s : RefusingStore σ}
    (h : s.refuses call (s.calls call) = true) (x : Action σ StoreError α) :
    (guarded call x).run s = ⟨.error (.refused call), s.counted call, []⟩ := if_pos h

/-- A call that is let through does what it does on the store beneath, and is counted as well. -/
theorem run_guarded_made {call : StoreCall} {s : RefusingStore σ}
    (h : s.refuses call (s.calls call) = false) (x : Action σ StoreError α) :
    (guarded call x).run s =
      ⟨(x.run s.store).result, { s.counted call with store := (x.run s.store).store },
        (x.run s.store).events⟩ :=
  if_neg (Bool.eq_false_iff.mp h)

instance [Store σ] : Store (RefusingStore σ) where
  get key := guarded .get (Store.get key)
  put key value := guarded .put (Store.put key value)
  delete key := guarded .delete (Store.delete key)
  scan scan := guarded .scan (Store.scan scan)
  entry e := guarded .entry (Store.entry e)
  begin := guarded .begin Store.begin
  commit := guarded .commit Store.commit
  rollback := guarded .rollback Store.rollback
  contents s := Store.contents s.store

end RefusingStore

/-- The schedule that lets the first calls of each kind through, up to a number, and refuses the rest. -/
def Schedule.after (allowed : StoreCall → Option Nat) : Schedule := fun call n =>
  match allowed call with
  | some k => k ≤ n
  | none => false

end ThreatLedger
