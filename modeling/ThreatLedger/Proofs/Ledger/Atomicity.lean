/-
  Operations are kept as a whole or not at all, also where the store refuses calls.

  1. **Atomic actions** — an action on a refusing store is atomic if no invocation is open after it,
     and if it has changed nothing when it fails.
  2. **Operations** — all operations of the ledger and of the catalog are atomic, whatever is
     refused but the ends of invocations (`operations_atomic`).
-/
import ThreatLedger.Proofs.Ledger.Bodies
import ThreatLedger.Proofs.Stix.Catalog
import ThreatLedger.Proofs.Store.Backends

open ThreatLedger.Action

namespace ThreatLedger

open RefusingStore

variable {σ α : Type} [Store σ] [LawfulStore σ]

/-! ## Atomic actions -/

/-- From the store `s`, whose entries are `m`, the action leaves no invocation open, and has changed
nothing if it fails. -/
def Action.AtomicFrom (x : Action (RefusingStore σ) LedgerError α) (s : RefusingStore σ)
    (m : KeyMap Bytes) : Prop :=
  ∃ m', Holds (x.run s).store.store m' ∧ ∀ e, (x.run s).result = .error e → m' = m

/-- What endures on the reference store is atomic on every lawful one.  Both stores are under one
schedule, so that the same calls are refused on both. -/
theorem atomicFrom_of_endures {x : Action (RefusingStore σ) LedgerError α}
    {y : Action (RefusingStore ReferenceStore) LedgerError α}
    {z : Action ReferenceStore LedgerError α} (hxy : Tracks (Alike Shows) Never x y)
    (hyz : Endures y z) {s : RefusingStore σ} {m : KeyMap Bytes} (hs : Holds s.store m)
    (hends : s.refuses.LetsEnd) : x.AtomicFrom s m := by
  obtain ⟨space, hshows⟩ := hs
  let t : ReferenceStore := ⟨m, none, space⟩
  have hm := hxy.matches (t := ⟨t, s.refuses, s.calls⟩) ⟨hshows, rfl, rfl⟩
  obtain ⟨⟨hclosed, hkept⟩, hy⟩ := hyz s.refuses hends (s := ⟨t, s.refuses, s.calls⟩) ⟨rfl, rfl⟩ rfl
  have hstore := hm.store.store
  rcases hy with hy | hy
  · -- the action answers as without faults
    refine ⟨(z.run t).store.entries, ⟨(z.run t).store.space, ?_⟩, fun e he => ?_⟩
    · rw [hy.store.store] at hstore
      rw [← hclosed]
      exact hstore
    · rw [hkept e ((hm.result.trans hy.result).symm.trans he)]
  · -- a call was refused: nothing has changed
    rw [hy.store.store] at hstore
    exact ⟨m, ⟨space, hstore⟩, fun _ _ => rfl⟩

/-! ## Operations -/

/-- **Atomicity.**  Whichever calls a schedule refuses, and wherever in an operation the refusal
strikes, an operation that fails leaves the entries as they were, and none leaves an invocation
open; only the ends of invocations have to be let through. -/
theorem operations_atomic (s : RefusingStore σ) (m : KeyMap Bytes) (hs : Holds s.store m)
    (hends : s.refuses.LetsEnd) :
    (∀ (session : Session) (command : Ledger.Command), (command.run session).AtomicFrom s m) ∧
      ∀ command : Stix.Catalog.Command, command.run.AtomicFrom s m := by
  have simulates := simulates_alike (LawfulStore.simulates (σ := σ))
  constructor
  · intro session command
    exact atomicFrom_of_endures (Ledger.tracks_run simulates session command)
      (Ledger.endures_run session command) hs hends
  · intro command
    exact atomicFrom_of_endures (Stix.Catalog.tracks_run simulates command)
      (Stix.Catalog.endures_run command) hs hends

/-- A database that refuses every put but the first one: the second seed is refused. -/
def refusingSecondSeed : RefusingStore DatabaseStore :=
  .ofStore ⟨.empty, ⟨0, "threat"⟩⟩ (.after fun call => if call = .put then some 1 else none)

/-- The first seed, which was written, is taken back. -/
theorem init_takes_first_seed_back :
    let o := (Ledger.Command.init.run ⟨.ofRole "HeadOfOperations", .rbac⟩).run refusingSecondSeed
    o.result = .error (.store (.refused .put)) ∧ Holds o.store.store .empty := by
  have hends : refusingSecondSeed.refuses.LetsEnd := fun _ => ⟨rfl, rfl⟩
  have hs : Holds refusingSecondSeed.store .empty := ⟨_, .closed .empty ⟨0, "threat"⟩⟩
  have hfails : ((Ledger.Command.init.run ⟨.ofRole "HeadOfOperations", .rbac⟩).run
      refusingSecondSeed).result = .error (.store (.refused .put)) := by rfl
  obtain ⟨m', hm', hkept⟩ :=
    (operations_atomic _ _ hs hends).1 ⟨.ofRole "HeadOfOperations", .rbac⟩ .init
  exact ⟨hfails, hkept _ hfails ▸ hm'⟩

end ThreatLedger
