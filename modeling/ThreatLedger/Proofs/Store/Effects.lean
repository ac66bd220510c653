/-
  What an action answers on a reference store, and what it makes of the entries.

  1. **Effects** — `Runs` gives the answer of an action and the entries that it leaves; an
     invocation that is open around it stays open.  `Finds` is the case of an action that changes
     nothing, and `Makes` that of one which gives no answer but new entries, or fails before it
     writes.
  2. **Calls** — the effect of each call.
  3. **Composition** — effects follow one another; what is found first decides what is found or made
     next.
  4. **Everywhere** — the effect of an action on the reference store is its effect on every lawful
     store.
-/
import ThreatLedger.Proofs.Store.Invocations

open ThreatLedger.Action

namespace ThreatLedger

/-! ## Effects -/

section

variable {ε α β γ : Type} {saved : Option (KeyMap Bytes)} {m m' m'' : KeyMap Bytes}

/-- On a reference store with the entries `m`, the action gives `r` and leaves the entries `m'`. -/
def Runs (saved : Option (KeyMap Bytes)) (x : Action ReferenceStore ε α) (m : KeyMap Bytes)
    (r : Except ε α) (m' : KeyMap Bytes) : Prop :=
  ∀ space, ∃ events, x.run ⟨m, saved, space⟩ = ⟨r, ⟨m', saved, space⟩, events⟩

/-- The action gives `r` and changes nothing. -/
abbrev Finds (saved : Option (KeyMap Bytes)) (x : Action ReferenceStore ε α) (m : KeyMap Bytes)
    (r : Except ε α) : Prop :=
  Runs saved x m r m

/-- The action leaves the entries that `r` gives, or fails as `r` does and changes nothing. -/
abbrev Makes (saved : Option (KeyMap Bytes)) (x : Action ReferenceStore ε Unit) (m : KeyMap Bytes)
    (r : Except ε (KeyMap Bytes)) : Prop :=
  Runs saved x m (r.map fun _ => ()) (r.toOption.getD m)

/-! ## Calls -/

theorem finds_ofExcept (r : Except ε α) : Finds saved (.ofExcept r) m r := fun _ => ⟨[], rfl⟩

theorem finds_pure (a : α) : Finds saved (pure a : Action _ ε α) m (.ok a) := fun _ => ⟨[], rfl⟩

theorem finds_fail (e : ε) : Finds saved (.fail e : Action _ ε α) m (.error e) := fun _ => ⟨[], rfl⟩

theorem finds_report (event : Event) : Finds saved (.report event : Action _ ε Unit) m (.ok ()) :=
  fun _ => ⟨[event], rfl⟩

section

variable [StoreFailure ε]

theorem finds_get (key : String) :
    Finds saved ((Store.get key).lift : Action _ ε _) m (.ok (m.get? key)) := fun _ => ⟨[], rfl⟩

theorem finds_entry (e : Entry) :
    Finds saved ((Store.entry e).lift : Action _ ε _) m (.ok e) := fun _ => ⟨[], rfl⟩

/-- A scan of a good size finds its page; what it reports is left open. -/
theorem finds_scan {scan : Scan} {limit : Nat} (h : scan.limit = .ok limit) :
    Finds saved ((Store.scan scan).lift : Action _ ε _) m (.ok (m.page scan limit)) :=
  fun _ => ⟨_, run_lift_ok (ReferenceStore.run_scan_ok h _)⟩

theorem makes_put (key : String) (value : Bytes) :
    Makes saved ((Store.put key value).lift : Action _ ε _) m (.ok (m.insert key value)) :=
  fun _ => ⟨[], rfl⟩

theorem makes_delete (key : String) :
    Makes saved ((Store.delete key).lift : Action _ ε _) m (.ok (m.erase key)) := fun _ => ⟨[], rfl⟩

end

/-! ## Composition -/

/-- An effect with a value, and then the one that goes on from it, on the entries that the first one
leaves. -/
theorem runs_next {x : Action ReferenceStore ε α} {f : α → Action ReferenceStore ε β} {a : α}
    {r : Except ε β} (hx : Runs saved x m (.ok a) m') (hf : Runs saved (f a) m' r m'') :
    Runs saved (x >>= f) m r m'' := by
  intro space
  obtain ⟨events, hx⟩ := hx space
  obtain ⟨more, hf⟩ := hf space
  rw [run_bind, hx]
  exact ⟨events ++ more, congrArg (Outcome.after events) hf⟩

/-- Nothing goes on from an error: the entries are those that were left when it came up. -/
theorem runs_stop {x : Action ReferenceStore ε α} {e : ε} (hx : Runs saved x m (.error e) m')
    (f : α → Action ReferenceStore ε β) : Runs saved (x >>= f) m (.error e) m' := by
  intro space
  obtain ⟨events, hx⟩ := hx space
  rw [run_bind, hx]
  exact ⟨events, rfl⟩

/-- What is found first, in the form of another value, decides what is found next. -/
theorem finds_bind_map {x : Action ReferenceStore ε β} {r : Except ε α} {g : α → β}
    {f : β → Action ReferenceStore ε γ} {q : α → Except ε γ} (hx : Finds saved x m (r.map g))
    (hf : ∀ a, Finds saved (f (g a)) m (q a)) : Finds saved (x >>= f) m (r >>= q) := by
  cases r with
  | error e => exact runs_stop hx f
  | ok a => exact runs_next hx (hf a)

/-- What is found goes on with what is found next, on the same entries. -/
theorem finds_bind {x : Action ReferenceStore ε α} {r : Except ε α}
    {f : α → Action ReferenceStore ε β} {q : α → Except ε β} (hx : Finds saved x m r)
    (hf : ∀ a, Finds saved (f a) m (q a)) : Finds saved (x >>= f) m (r >>= q) := by
  cases r with
  | error e => exact runs_stop hx f
  | ok a => exact runs_next hx (hf a)

/-- What is found first decides what is made. -/
theorem makes_bind {x : Action ReferenceStore ε α} {r : Except ε α}
    {f : α → Action ReferenceStore ε Unit} {q : α → Except ε (KeyMap Bytes)}
    (hx : Finds saved x m r) (hf : ∀ a, Makes saved (f a) m (q a)) :
    Makes saved (x >>= f) m (r >>= q) := by
  cases r with
  | error e => exact runs_stop hx f
  | ok a => exact runs_next hx (hf a)

section

variable [StoreFailure ε]

/-- An invocation gives what its body gives, and keeps the entries that it leaves unless it
fails. -/
theorem runs_atomically {x : Action ReferenceStore ε α} {r : Except ε α}
    (hx : Runs (some m) x m r m') : Runs none (atomically x) m r (if r.isOk then m' else m) := by
  intro space
  obtain ⟨events, hx⟩ := hx space
  exact ⟨events, atomically_run hx⟩

/-- An invocation that only finds something answers with it and leaves the entries as they were, be it
committed or rolled back. -/
theorem finds_atomically {x : Action ReferenceStore ε α} {r : Except ε α}
    (hx : Finds (some m) x m r) : Finds none (atomically x) m r := by
  have h := runs_atomically hx
  rwa [ite_self] at h

/-- An invocation keeps what its body makes if that succeeds, and takes it back if it fails. -/
theorem makes_atomically {x : Action ReferenceStore ε Unit} {r : Except ε (KeyMap Bytes)}
    (hx : Makes (some m) x m r) : Makes none (atomically x) m r := by
  have h := runs_atomically hx
  cases r <;> exact h

end

/-! ## Everywhere -/

/-- What follows an action on the reference store has its effect there.  So an operation is computed
once, on the reference store, and holds of every lawful one. -/
theorem Runs.holds {σ : Type} [Store σ] [LawfulStore σ] [StoreFailure ε] {s : σ} {x : Action σ ε α}
    {y : Action ReferenceStore ε α} {r : Except ε α} (hy : Runs none y m r m')
    (hxy : Tracks Shows Never x y) (hs : Holds s m) :
    (x.run s).result = r ∧ Holds (x.run s).store m' := by
  obtain ⟨space, hshows⟩ := hs
  have hm := hxy.matches hshows
  obtain ⟨events, hy⟩ := hy space
  rw [hy] at hm
  exact ⟨hm.result, space, hm.store⟩

end

end ThreatLedger
