/-
  A store that can be read only: puts and deletes fail, all other calls are those of the store beneath.
-/
import ThreatLedger.Store.Basic

namespace ThreatLedger

/-- A store that may not be written. -/
structure ReadOnlyStore (σ : Type) where
  store : σ

namespace ReadOnlyStore

variable {σ ε α : Type}

/-- An action of the store beneath. -/
def ofBeneath (x : Action σ ε α) : Action (ReadOnlyStore σ) ε α := fun s =>
  let o := x s.store
  ⟨o.result, ⟨o.store⟩, o.events⟩

instance [Store σ] : Store (ReadOnlyStore σ) where
  get key := ofBeneath (Store.get key)
  put _ _ := .fail .database
  delete _ := .fail .database
  scan scan := ofBeneath (Store.scan scan)
  entry e := ofBeneath (Store.entry e)
  begin := ofBeneath Store.begin
  commit := ofBeneath Store.commit
  rollback := ofBeneath Store.rollback
  contents s := Store.contents s.store

/-- Runs an action on a store that is not to be written. -/
def within (x : Action (ReadOnlyStore σ) ε α) : Action σ ε α := fun s =>
  let o := x ⟨s⟩
  ⟨o.result, o.store.store, o.events⟩

/-- An action within a store that only reads does on the store beneath what it does there. -/
theorem run_within (x : Action (ReadOnlyStore σ) ε α) (s : σ) :
    (within x).run s = ⟨(x.run ⟨s⟩).result, (x.run ⟨s⟩).store.store, (x.run ⟨s⟩).events⟩ := rfl

end ReadOnlyStore
end ThreatLedger
