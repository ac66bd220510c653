/-
  Running one action on two stores.

  1. **Outcomes** — two outcomes match if they answer the same, report the same and leave related
     stores behind; an outcome strays if it is an error of the store itself.
  2. **Tracking** — an action `x` tracks `y` if from related stores its outcome matches that of `y`,
     or strays and leaves behind a store of which `P` holds.  With an empty `P` nothing strays, and
     `x` is just `y` on another store.
  3. **Composition** — tracking goes through every way of building actions.  An attempt turns errors
     into values, so it is only followed where nothing strays.
  4. **Stores** — `ReadsTrack`, `CallsTrack` and `Simulates` say for a store which of its calls
     track those of another one; `atomically` then follows from its body.
-/
import ThreatLedger.Store.Basic

open ThreatLedger.Action

namespace ThreatLedger

variable {σ τ ε ε' α β : Type}

/-! ## Outcomes -/

/-- The same answer and the same events, and related stores. -/
structure Outcome.Matches (R : σ → τ → Prop) (o : Outcome σ ε α) (p : Outcome τ ε α) : Prop where
  result : o.result = p.result
  events : o.events = p.events
  store : R o.store p.store

/-- An error of the store, and a store of which `P` holds. -/
structure Outcome.Strays [StoreFailure ε] (P : σ → Prop) (o : Outcome σ ε α) : Prop where
  failed : ∃ e, o.result = .error (StoreFailure.ofStore e)
  store : P o.store

namespace Action

/-! ## Tracking -/

/-- From related stores, `x` answers as `y` does or fails with an error of its store. -/
def Tracks [StoreFailure ε] (R : σ → τ → Prop) (P : σ → Prop) (x : Action σ ε α)
    (y : Action τ ε α) : Prop :=
  ∀ s t, R s t → (x.run s).Matches R (y.run t) ∨ (x.run s).Strays P

/-- No store. -/
abbrev Never : σ → Prop := fun _ => False

variable [StoreFailure ε] {R : σ → τ → Prop} {P : σ → Prop}

/-- Where nothing strays, outcomes match: the results and the events are equal, and the stores stay
related. -/
theorem Tracks.matches {x : Action σ ε α} {y : Action τ ε α} (h : Tracks R Never x y) {s : σ}
    {t : τ} (hst : R s t) : (x.run s).Matches R (y.run t) := by
  rcases h s t hst with hm | hs
  · exact hm
  · exact hs.store.elim

/-- An outcome that does not depend on the store is followed by itself. -/
theorem tracks_const (r : Except ε α) (events : List Event) :
    Tracks R P (fun s => ⟨r, s, events⟩) (fun t => ⟨r, t, events⟩) :=
  fun _ _ hst => .inl ⟨rfl, rfl, hst⟩

theorem tracks_pure (a : α) : Tracks R P (pure a : Action σ ε α) (pure a) := tracks_const _ _

theorem tracks_fail (e : ε) : Tracks R P (.fail e : Action σ ε α) (.fail e) := tracks_const _ _

theorem tracks_report (event : Event) :
    Tracks R P (.report event : Action σ ε Unit) (.report event) := tracks_const _ _

theorem tracks_ofExcept (r : Except ε α) :
    Tracks R P (.ofExcept r : Action σ ε α) (.ofExcept r) := tracks_const _ _

/-! ## Composition -/

/-- **Sequence.**  If the first action strays the second is never run; if it matches, the second one
starts from related stores with the same value. -/
theorem tracks_bind {x : Action σ ε α} {y : Action τ ε α} {f : α → Action σ ε β}
    {g : α → Action τ ε β} (hx : Tracks R P x y) (hf : ∀ a, Tracks R P (f a) (g a)) :
    Tracks R P (x >>= f) (y >>= g) := by
  intro s t hst
  rw [bind_run, bind_run]
  -- the first action matches, and the second decides, or it has strayed already
  rcases hx s t hst with hm | ⟨⟨e, he⟩, hP⟩
  · rw [hm.result, hm.events]
    cases hy : (y.run t).result with
    | error e => exact .inl ⟨rfl, rfl, hm.store⟩
    | ok a =>
      rcases hf a _ _ hm.store with hn | hs
      · exact .inl ⟨hn.result, congrArg _ hn.events, hn.store⟩
      · exact .inr ⟨hs.failed, hs.store⟩
  · rw [he]
    exact .inr ⟨⟨e, rfl⟩, hP⟩

/-- What an action keeps of its store can be added to what relates the stores, as long as nothing
strays. -/
theorem tracks_and {Q : σ → Prop} {x : Action σ ε α} {y : Action τ ε α} (hx : Tracks R Never x y)
    (hQ : ∀ s, Q s → Q (x.run s).store) : Tracks (fun s t => R s t ∧ Q s) Never x y := by
  rintro s t ⟨hst, hs⟩
  have hm := hx.matches hst
  exact .inl ⟨hm.result, hm.events, hm.store, hQ s hs⟩

theorem tracks_map {x : Action σ ε α} {y : Action τ ε α} (f : α → β) (hx : Tracks R P x y) :
    Tracks R P (f <$> x) (f <$> y) := by
  rw [map_eq_pure_bind, map_eq_pure_bind]
  exact tracks_bind hx fun a => tracks_pure (f a)

theorem tracks_lift {x : Action σ StoreError α} {y : Action τ StoreError α} (hx : Tracks R P x y) :
    Tracks R P (x.lift : Action σ ε α) y.lift := by
  intro s t hst
  rcases hx s t hst with hm | ⟨⟨e, he⟩, hP⟩
  · exact .inl ⟨congrArg (Except.mapError _) hm.result, hm.events, hm.store⟩
  · exact .inr ⟨⟨e, congrArg (Except.mapError _) he⟩, hP⟩

/-- Errors that are answers are the same on both sides.  Neither side may stray here, since an attempt
would go on from there. -/
theorem tracks_attempt [StoreFailure ε'] {x : Action σ ε α} {y : Action τ ε α}
    (hx : Tracks R Never x y) :
    Tracks R Never (x.attempt : Action σ ε' (Except ε α)) y.attempt := by
  intro s t hst
  have hm := hx.matches hst
  exact .inl ⟨congrArg Except.ok hm.result, hm.events, hm.store⟩

end Action

/-! ## Stores -/

variable [Store σ] [Store τ]

/-- The reading calls of one store track those of another. -/
structure ReadsTrack (R : σ → τ → Prop) (P : σ → Prop) : Prop where
  get : ∀ key, Tracks R P (Store.get key) (Store.get key)
  scan : ∀ scan, Tracks R P (Store.scan scan) (Store.scan scan)
  entry : ∀ e, Tracks R P (Store.entry e) (Store.entry e)
  contents : ∀ {s t}, R s t → Store.contents s = Store.contents t

/-- The calls that an invocation is made of track those of another store. -/
structure CallsTrack (R : σ → τ → Prop) (P : σ → Prop) : Prop extends ReadsTrack R P where
  put : ∀ key value, Tracks R P (Store.put key value) (Store.put key value)
  delete : ∀ key, Tracks R P (Store.delete key) (Store.delete key)

/-- All calls of one store are those of another, seen through `R`. -/
structure Simulates (R : σ → τ → Prop) : Prop extends CallsTrack R Never where
  begin : Tracks R Never (Store.begin : Action σ StoreError Unit) Store.begin
  commit : Tracks R Never (Store.commit : Action σ StoreError Unit) Store.commit
  rollback : Tracks R Never (Store.rollback : Action σ StoreError Unit) Store.rollback

section

variable [StoreFailure ε] {R : σ → τ → Prop}

/-- Taking back goes alike on both sides if rollbacks do, and reports the same failure of them. -/
theorem tracks_abandon
    (hrollback : Tracks R Never (Store.rollback : Action σ StoreError Unit) Store.rollback) :
    Tracks R Never (abandon : Action σ ε Unit) abandon := by
  unfold abandon
  refine tracks_bind (tracks_attempt hrollback) fun r => ?_
  cases r with
  | ok _ => exact tracks_pure ()
  | error e => exact tracks_report _

/-- **Invocations** are tracked if their bodies are, and their beginnings and ends.  A body that fails is
taken back on both sides. -/
theorem tracks_atomically {x : Action σ ε α} {y : Action τ ε α}
    (hbegin : Tracks R Never (Store.begin : Action σ StoreError Unit) Store.begin)
    (hcommit : Tracks R Never (Store.commit : Action σ StoreError Unit) Store.commit)
    (hrollback : Tracks R Never (Store.rollback : Action σ StoreError Unit) Store.rollback)
    (hx : Tracks R Never x y) : Tracks R Never (atomically x) (atomically y) := by
  unfold atomically
  refine tracks_bind (tracks_lift hbegin) fun _ => ?_
  refine tracks_bind (tracks_attempt hx) fun r => ?_
  cases r with
  | ok a => exact tracks_bind (tracks_lift hcommit) fun _ => tracks_pure a
  | error e => exact tracks_bind (tracks_abandon hrollback) fun _ => tracks_fail e

/-- A store that simulates another one has its invocations too. -/
theorem Simulates.atomically (h : Simulates R) {x : Action σ ε α} {y : Action τ ε α}
    (hx : Tracks R Never x y) : Tracks R Never (atomically x) (atomically y) :=
  tracks_atomically h.begin h.commit h.rollback hx

end

end ThreatLedger
