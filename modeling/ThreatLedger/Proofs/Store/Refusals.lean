/-
  Reading from a store that refuses some of its calls.

  1. **Calls made** — `Made` says which calls were made between two moments of a refusing store.
  2. **Stopping** — an action without attempts ends at the first refusal: if one of its calls is
     refused, that is what it fails with (`Stops`).
  3. **Reads** — what is made of reads answers as without refusals, or one of its calls was refused;
     what the store beneath shows stays the same (`reads_under_refusals`).
-/
import ThreatLedger.Proofs.Store.Effects

open ThreatLedger.Action

namespace ThreatLedger

variable {σ ε α β : Type}

/-! ## Calls made -/

namespace RefusingStore

/-- Between two moments of a store the call of a kind was made that comes after `n` others. -/
def Made (s s' : RefusingStore σ) (call : StoreCall) (n : Nat) : Prop :=
  s.calls call ≤ n ∧ n < s'.calls call

theorem calls_counted (s : RefusingStore σ) (call : StoreCall) :
    (s.counted call).calls call = s.calls call + 1 := if_pos rfl

theorem calls_counted_ne (s : RefusingStore σ) {made call : StoreCall} (h : call ≠ made) :
    (s.counted made).calls call = s.calls call := if_neg h

theorem calls_le_counted (s : RefusingStore σ) (made call : StoreCall) :
    s.calls call ≤ (s.counted made).calls call := by
  by_cases h : call = made
  · rw [h, s.calls_counted]
    exact Nat.le_succ _
  · exact Nat.le_of_eq (s.calls_counted_ne h).symm

theorem made_counted (s : RefusingStore σ) (call : StoreCall) :
    Made s (s.counted call) call (s.calls call) := by
  unfold Made
  rw [s.calls_counted]
  exact ⟨Nat.le_refl _, Nat.lt_succ_self _⟩

/-- Counting a call is making that one, and no other. -/
theorem Made.of_counted {s : RefusingStore σ} {made call : StoreCall} {n : Nat}
    (h : Made s (s.counted made) call n) : call = made ∧ n = s.calls made := by
  obtain ⟨hle, hlt⟩ := h
  by_cases hcall : call = made
  · subst hcall
    rw [s.calls_counted] at hlt
    exact ⟨rfl, by omega⟩
  · rw [s.calls_counted_ne hcall] at hlt
    omega

end RefusingStore

open RefusingStore

/-! ## Stopping -/

/-- How an action without attempts ends on a refusing store: if one of the calls that it made was
refused, it has failed with that refusal.  It made calls of the given kinds only. -/
structure Outcome.Stops [StoreFailure ε] (kinds : StoreCall → Prop) (s : RefusingStore σ)
    (o : Outcome (RefusingStore σ) ε α) : Prop where
  refuses : o.store.refuses = s.refuses
  calls : ∀ call, s.calls call ≤ o.store.calls call
  kinds : ∀ call n, Made s o.store call n → kinds call
  refused : ∀ call n, Made s o.store call n → s.refuses call n = true →
    o.result = .error (StoreFailure.ofStore (.refused call))

/-- From every store, the action stops at refusals. -/
def StopsAtRefusals [StoreFailure ε] (kinds : StoreCall → Prop)
    (x : Action (RefusingStore σ) ε α) : Prop :=
  ∀ s, (x.run s).Stops kinds s

section

variable [StoreFailure ε] {kinds : StoreCall → Prop}

/-- What makes no call is not refused one. -/
theorem stops_const (r : Except ε α) (events : List Event) :
    StopsAtRefusals kinds fun s : RefusingStore σ => (⟨r, s, events⟩ : Outcome _ ε α) := by
  intro s
  have hnone : ∀ call n, ¬Made s s call n := fun _ _ h => Nat.not_lt.mpr h.1 h.2
  exact ⟨rfl, fun _ => Nat.le_refl _, fun call n h => absurd h (hnone call n),
    fun call n h => absurd h (hnone call n)⟩

/-- A single call stops at its refusal: it is the only one that was made, and its error is the
answer. -/
theorem stops_guarded {call : StoreCall} (hkind : kinds call) (x : Action σ StoreError α) :
    StopsAtRefusals kinds ((guarded call x).lift : Action (RefusingStore σ) ε α) := by
  intro s
  cases hc : s.refuses call (s.calls call) with
  | true =>
    rw [run_lift_error (run_guarded_refused hc x)]
    refine ⟨rfl, s.calls_le_counted call, fun _ _ h => h.of_counted.1 ▸ hkind, fun _ _ h _ => ?_⟩
    rw [h.of_counted.1]
  -- the call was let through, so no refusal was met
  | false =>
    rw [run_lift, run_guarded_made hc x]
    refine ⟨rfl, s.calls_le_counted call, fun _ _ h => ?_, fun _ n h hrefused => ?_⟩
    · exact (Made.of_counted (n := _) h).1 ▸ hkind
    · obtain ⟨rfl, rfl⟩ := Made.of_counted (n := n) h
      cases hc.symm.trans hrefused

/-- **Sequence.**  After a refusal nothing more is done; before one, the second action goes on from
the calls of the first. -/
theorem stops_bind {x : Action (RefusingStore σ) ε α} {f : α → Action (RefusingStore σ) ε β}
    (hx : StopsAtRefusals kinds x) (hf : ∀ a, StopsAtRefusals kinds (f a)) :
    StopsAtRefusals kinds (x >>= f) := by
  intro s
  have hs := hx s
  rw [bind_run]
  cases hr : (x.run s).result with
  | error e =>
    refine ⟨hs.refuses, hs.calls, hs.kinds, fun call n hmade hrefused => ?_⟩
    have hresult := hs.refused call n hmade hrefused
    rw [hr] at hresult
    exact congrArg Except.error (Except.error.inj hresult)
  | ok a =>
    have hnext := hf a (x.run s).store
    -- a call was made by the first action or by the second
    have hsplit : ∀ call n, Made s ((f a).run (x.run s).store).store call n →
        Made s (x.run s).store call n ∨
          Made (x.run s).store ((f a).run (x.run s).store).store call n := by
      rintro call n ⟨hle, hlt⟩
      rcases Nat.lt_or_ge n ((x.run s).store.calls call) with hbefore | hafter
      · exact .inl ⟨hle, hbefore⟩
      · exact .inr ⟨hafter, hlt⟩
    refine ⟨hnext.refuses.trans hs.refuses, fun call => Nat.le_trans (hs.calls call) (hnext.calls call),
      fun call n hmade => ?_, fun call n hmade hrefused => ?_⟩
    · rcases hsplit call n hmade with hmade | hmade
      · exact hs.kinds call n hmade
      · exact hnext.kinds call n hmade
    · rcases hsplit call n hmade with hmade | hmade
      · cases hr.symm.trans (hs.refused call n hmade hrefused)
      · exact hnext.refused call n hmade (hs.refuses.symm ▸ hrefused)

end

/-! ## Reads -/

section

variable [Store σ] [LawfulStore σ]

/-- A later moment of a refusing store that still shows `t`, with no call refused so far. -/
structure Undisturbed (s₀ : RefusingStore σ) (t : ReferenceStore) (s : RefusingStore σ)
    (t' : ReferenceStore) : Prop where
  same : t' = t
  shows : Shows s.store t
  refuses : s.refuses = s₀.refuses
  calls : ∀ call, s₀.calls call ≤ s.calls call

/-- A later moment of a refusing store that still shows `t`, with a call refused. -/
structure Disturbed (s₀ : RefusingStore σ) (t : ReferenceStore) (s : RefusingStore σ) : Prop where
  shows : Shows s.store t
  refused : ∃ call n, Made s₀ s call n ∧ s₀.refuses call n = true

variable {s₀ : RefusingStore σ} {t : ReferenceStore}

/-- A read that is let through finds what is shown; one that is refused has been made, and says so. -/
theorem tracks_guarded_read (call : StoreCall) {x : Action σ StoreError α}
    {y : Action ReferenceStore StoreError α} (hxy : Tracks Shows Never x y)
    (hread : (y.run t).store = t) :
    Tracks (Undisturbed s₀ t) (Disturbed s₀ t) (guarded call x) y := by
  rintro s t' ⟨rfl, hshows, hrefuses, hcalls⟩
  -- calls are only ever counted up
  have hle : ∀ c, s₀.calls c ≤ (s.counted call).calls c :=
    fun c => Nat.le_trans (hcalls c) (s.calls_le_counted call c)
  cases hc : s.refuses call (s.calls call) with
  | true =>
    rw [run_guarded_refused hc]
    refine .inr ⟨⟨_, rfl⟩, hshows, call, s.calls call, ⟨hcalls call, (s.made_counted call).2⟩, ?_⟩
    rw [← hrefuses, hc]
  | false =>
    have hm := hxy.matches hshows
    rw [run_guarded_made hc]
    exact .inl ⟨hm.result, hm.events, hread, hread ▸ hm.store, hrefuses, hle⟩

theorem readsTrack_undisturbed : ReadsTrack (Undisturbed s₀ t) (Disturbed s₀ t) where
  get key := tracks_guarded_read .get (LawfulStore.simulates.get key) rfl
  scan scan := tracks_guarded_read .scan (LawfulStore.simulates.scan scan) (store_scan scan t)
  entry e := tracks_guarded_read .entry (LawfulStore.simulates.entry e) rfl
  contents hst := by
    rw [hst.same]
    exact (LawfulStore.simulates (σ := σ)).contents hst.shows

/-- **Reads.**  What the store shows stays the same, and the answer is the one without refusals unless
one of the calls that were made was refused. -/
theorem reads_under_refusals [StoreFailure ε] {x : ∀ (σ : Type) [Store σ], Action σ ε α}
    (hx : MadeOfReads x) {r : Except ε α}
    (hfinds : Finds t.saved (x ReferenceStore) t.entries r) {s : RefusingStore σ}
    (hs : Shows s.store t) :
    let o := (x (RefusingStore σ)).run s
    Shows o.store.store t ∧
      (o.result = r ∨ ∃ call n, Made s o.store call n ∧ s.refuses call n = true) := by
  intro o
  obtain ⟨events, hrun⟩ := hfinds t.space
  have hresult : ((x ReferenceStore).run t).result = r := congrArg Outcome.result hrun
  rcases hx readsTrack_undisturbed s t ⟨rfl, hs, rfl, fun _ => Nat.le_refl _⟩ with hm | hd
  · exact ⟨hm.store.shows, .inl (hm.result.trans hresult)⟩
  · exact ⟨hd.store.shows, .inr hd.store.refused⟩

/-- What is answered in spite of refusals is what is answered without any: a refusal of any of its reads
would have been the answer instead. -/
theorem eq_ok_under_refusals [StoreFailure ε] {kinds : StoreCall → Prop}
    {x : ∀ (σ : Type) [Store σ], Action σ ε α} (hx : MadeOfReads x)
    (hstops : StopsAtRefusals kinds (x (RefusingStore σ))) {r : Except ε α}
    (hfinds : Finds t.saved (x ReferenceStore) t.entries r) {s : RefusingStore σ}
    (hs : Shows s.store t) {a : α} (ha : ((x (RefusingStore σ)).run s).result = .ok a) :
    r = .ok a := by
  obtain ⟨-, hresult | ⟨call, n, hmade, hrefused⟩⟩ := reads_under_refusals hx hfinds hs
  · exact hresult.symm.trans ha
  · cases ha.symm.trans ((hstops s).refused call n hmade hrefused)

end

end ThreatLedger
