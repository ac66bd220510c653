/-
  Invocations: on a store without faults, and on one that refuses some of its calls.

  1. **Bodies** — the body of an invocation is an action for every store, made of calls
     (`MadeOfCalls`); some are made of reads only (`MadeOfReads`).
  2. **Without faults** — an invocation keeps what its body writes if the body succeeds, and goes
     back to the saved copy if it fails (`atomically_run`).
  3. **Under refusals** — an action endures if it answers as it does without faults or fails with an
     error of the store, and whenever it fails the store is as it was (`Endures`).  Invocations
     endure as long as neither a commit nor a rollback is refused: wherever a refusal strikes in the
     body, the saved copy is still there, and the rollback finds it.
  4. **Transfer** — a refusing store over a lawful store is simulated by a refusing store over the
     reference store.
-/
import ThreatLedger.Proofs.Store.Reference
import ThreatLedger.Store.Refusing

open ThreatLedger.Action

namespace ThreatLedger

variable {σ τ ε α β : Type}

/-! ## Bodies -/

/-- An action for every store that is made of the calls of an invocation. -/
def MadeOfCalls [StoreFailure ε] (x : ∀ (σ : Type) [Store σ], Action σ ε α) : Prop :=
  ∀ {σ τ : Type} [Store σ] [Store τ] {R : σ → τ → Prop} {P : σ → Prop},
    CallsTrack R P → Tracks R P (x σ) (x τ)

/-- An action for every store that is made of reads. -/
def MadeOfReads [StoreFailure ε] (x : ∀ (σ : Type) [Store σ], Action σ ε α) : Prop :=
  ∀ {σ τ : Type} [Store σ] [Store τ] {R : σ → τ → Prop} {P : σ → Prop},
    ReadsTrack R P → Tracks R P (x σ) (x τ)

theorem MadeOfReads.calls [StoreFailure ε] {x : ∀ (σ : Type) [Store σ], Action σ ε α}
    (hx : MadeOfReads x) : MadeOfCalls x :=
  fun h => hx h.toReadsTrack

/-! ## One invocation, step by step -/

section

variable [Store σ] [StoreFailure ε] {x : Action σ ε α} {s s₁ s₂ s₃ : σ} {events : List Event}

/-- An invocation that cannot begin answers with the error of that, and its body is not run. -/
theorem atomically_run_unbegun {e : StoreError}
    (hbegin : (Store.begin : Action σ StoreError Unit).run s = ⟨.error e, s₁, []⟩) :
    (atomically x).run s = ⟨.error (StoreFailure.ofStore e), s₁, []⟩ := by
  unfold atomically
  rw [run_bind, run_lift_error hbegin]

/-- An invocation whose body succeeds answers as it does once the commit is let through, and leaves what
the commit leaves. -/
theorem atomically_run_ok {a : α}
    (hbegin : (Store.begin : Action σ StoreError Unit).run s = ⟨.ok (), s₁, []⟩)
    (hx : x.run s₁ = ⟨.ok a, s₂, events⟩)
    (hcommit : (Store.commit : Action σ StoreError Unit).run s₂ = ⟨.ok (), s₃, []⟩) :
    (atomically x).run s = ⟨.ok a, s₃, events⟩ := by
  unfold atomically
  simp only [run_bind, run_lift_ok hbegin, run_attempt, hx, run_lift_ok hcommit, pure_run,
    Outcome.after, List.nil_append, List.append_nil]

/-- An invocation whose body succeeds and whose commit does not.  Nothing takes it back: the rollback
belongs to bodies that fail. -/
theorem atomically_run_uncommitted {a : α} {e : StoreError}
    (hbegin : (Store.begin : Action σ StoreError Unit).run s = ⟨.ok (), s₁, []⟩)
    (hx : x.run s₁ = ⟨.ok a, s₂, events⟩)
    (hcommit : (Store.commit : Action σ StoreError Unit).run s₂ = ⟨.error e, s₃, []⟩) :
    (atomically x).run s = ⟨.error (StoreFailure.ofStore e), s₃, events⟩ := by
  unfold atomically
  simp only [run_bind, run_lift_ok hbegin, run_attempt, hx, run_lift_error hcommit, Outcome.after,
    List.nil_append, List.append_nil]

/-- An invocation whose body fails answers with that error once the rollback is let through, and leaves
what the rollback leaves. -/
theorem atomically_run_error {e : ε}
    (hbegin : (Store.begin : Action σ StoreError Unit).run s = ⟨.ok (), s₁, []⟩)
    (hx : x.run s₁ = ⟨.error e, s₂, events⟩)
    (hback : (Store.rollback : Action σ StoreError Unit).run s₂ = ⟨.ok (), s₃, []⟩) :
    (atomically x).run s = ⟨.error e, s₃, events⟩ := by
  unfold atomically abandon
  simp only [run_bind, run_lift_ok hbegin, run_attempt, hx, hback, pure_run, run_fail,
    Outcome.after, List.nil_append, List.append_nil]

/-- An invocation whose body fails, whatever comes of its rollback: the error of the body is the answer,
and a rollback that fails is only reported. -/
theorem atomically_run_abandoned {e : ε}
    (hbegin : (Store.begin : Action σ StoreError Unit).run s = ⟨.ok (), s₁, []⟩)
    (hx : x.run s₁ = ⟨.error e, s₂, events⟩) :
    (atomically x).run s = ((abandon >>= fun _ => .fail e).run s₂).after events := by
  unfold atomically
  generalize hrest : (abandon >>= fun _ => .fail e : Action σ ε α) = rest
  simp only [run_bind, run_lift_ok hbegin, run_attempt, hx, hrest, Outcome.after, List.nil_append]

/-- An invocation whose body fails answers with the error of the body, even if its rollback fails too. -/
theorem result_atomically_error {e : ε}
    (hbegin : (Store.begin : Action σ StoreError Unit).run s = ⟨.ok (), s₁, []⟩)
    (hx : x.run s₁ = ⟨.error e, s₂, events⟩) : ((atomically x).run s).result = .error e := by
  rw [atomically_run_abandoned hbegin hx]
  unfold abandon
  simp only [run_bind, run_attempt]
  rcases (Store.rollback : Action σ StoreError Unit).run s₂ with ⟨_ | _, s₃, more⟩ <;> rfl

/-- The answer of an invocation is that of its body, on the store that the invocation has begun with. -/
theorem result_of_atomically {a : α} (h : ((atomically x).run s).result = .ok a) :
    ∃ s', (x.run s').result = .ok a := by
  obtain ⟨_, -, h⟩ := result_bind.mp h
  obtain ⟨r, hr, h⟩ := result_bind.mp h
  refine ⟨_, (Except.ok.inj hr).trans ?_⟩
  cases r with
  | ok b =>
    obtain ⟨_, -, h⟩ := result_bind.mp h
    exact h
  | error e =>
    obtain ⟨_, -, h⟩ := result_bind.mp h
    cases h

end

/-! ## Without faults -/

/-- On both sides the same reference store, with an open invocation that began with the entries
`m`. -/
def Underway (m : KeyMap Bytes) (space : Option String) (s t : ReferenceStore) : Prop :=
  s = t ∧ ∃ written, t = ⟨written, some m, space⟩

theorem store_scan (scan : Scan) (s : ReferenceStore) :
    ((Store.scan scan : Action ReferenceStore StoreError ScanPage).run s).store = s := by
  simp only [Store.scan, Action.run]
  split <;> rfl

/-- Inside an invocation every call leaves the saved copy as it is, so that there is always something to
go back to. -/
theorem callsTrack_underway {m : KeyMap Bytes} {space : Option String} :
    CallsTrack (Underway m space) Never where
  get key := by
    rintro s _ ⟨rfl, written, rfl⟩
    exact .inl ⟨rfl, rfl, rfl, written, rfl⟩
  scan scan := by
    rintro s _ ⟨rfl, written, rfl⟩
    exact .inl ⟨rfl, rfl, rfl, written, store_scan scan _⟩
  entry e := by
    rintro s _ ⟨rfl, written, rfl⟩
    exact .inl ⟨rfl, rfl, rfl, written, rfl⟩
  contents h := congrArg Store.contents h.1
  put key value := by
    rintro s _ ⟨rfl, written, rfl⟩
    exact .inl ⟨rfl, rfl, rfl, written.insert key value, rfl⟩
  delete key := by
    rintro s _ ⟨rfl, written, rfl⟩
    exact .inl ⟨rfl, rfl, rfl, written.erase key, rfl⟩

/-- A store on which only reads are made stays the same. -/
theorem readsTrack_unchanged (v : ReferenceStore) :
    ReadsTrack (fun s t => s = v ∧ t = v) Never where
  get key := by
    rintro _ _ ⟨rfl, rfl⟩
    exact .inl ⟨rfl, rfl, rfl, rfl⟩
  scan scan := by
    rintro _ _ ⟨rfl, rfl⟩
    exact .inl ⟨rfl, rfl, store_scan scan _, store_scan scan _⟩
  entry e := by
    rintro _ _ ⟨rfl, rfl⟩
    exact .inl ⟨rfl, rfl, rfl, rfl⟩
  contents := by
    rintro _ _ ⟨rfl, rfl⟩
    rfl

/-- An action that began without an open invocation leaves none behind, and if it failed it has
changed nothing. -/
structure Outcome.Settles (t : ReferenceStore) (o : Outcome ReferenceStore ε α) : Prop where
  closed : o.store.saved = none
  kept : ∀ e, o.result = .error e → o.store = t

section

variable [StoreFailure ε] {x : Action ReferenceStore ε α} {m m' : KeyMap Bytes}
  {space : Option String} {events : List Event}

/-- An invocation keeps what its body writes if the body succeeds, and nothing of it if it fails. -/
theorem atomically_run {r : Except ε α}
    (hx : x.run ⟨m, some m, space⟩ = ⟨r, ⟨m', some m, space⟩, events⟩) :
    (atomically x).run ⟨m, none, space⟩ = ⟨r, ⟨if r.isOk then m' else m, none, space⟩, events⟩ := by
  cases r with
  | ok a => exact atomically_run_ok rfl hx rfl
  | error e => exact atomically_run_error rfl hx rfl

/-- The body of an invocation leaves it open, over the same saved copy.  A body is made of calls that
neither begin nor end one. -/
theorem MadeOfCalls.run_underway {x : ∀ (σ : Type) [Store σ], Action σ ε α} (hx : MadeOfCalls x)
    (m : KeyMap Bytes) (space : Option String) :
    ∃ r written events,
      (x ReferenceStore).run ⟨m, some m, space⟩ = ⟨r, ⟨written, some m, space⟩, events⟩ := by
  have hbegun : Underway m space ⟨m, some m, space⟩ ⟨m, some m, space⟩ := ⟨rfl, m, rfl⟩
  have hm := (hx callsTrack_underway).matches hbegun
  obtain ⟨-, written, hw⟩ := hm.store
  exact ⟨_, written, _, congrArg (Outcome.mk _ · _) hw⟩

/-- An invocation settles: it keeps its writes or has none, and is closed in either case. -/
theorem MadeOfCalls.settles {x : ∀ (σ : Type) [Store σ], Action σ ε α} (hx : MadeOfCalls x)
    {t : ReferenceStore} (ht : t.saved = none) :
    ((atomically (x ReferenceStore)).run t).Settles t := by
  obtain ⟨m, saved, space⟩ := t
  cases ht
  obtain ⟨r, written, events, hrun⟩ := hx.run_underway m space
  rw [atomically_run hrun]
  refine ⟨rfl, fun e he => ?_⟩
  cases he
  rfl

end

/-! ## Under refusals -/

namespace RefusingStore

/-- A refusing store with a schedule, over a store. -/
structure Above (refuses : Schedule) (s : RefusingStore σ) (t : σ) : Prop where
  store : s.store = t
  refuses : s.refuses = refuses

/-- A refusing store over a store, of which `Q` holds. -/
def Inside (refuses : Schedule) (Q : σ → σ → Prop) (s : RefusingStore σ) (t : σ) : Prop :=
  Above refuses s t ∧ Q s.store t

/-- A refusing store over some store of which `Q` holds. -/
def Caught (refuses : Schedule) (Q : σ → σ → Prop) (s : RefusingStore σ) : Prop :=
  Inside refuses Q s s.store

variable {refuses : Schedule} {Q : σ → σ → Prop}

/-- A refused call leaves the store beneath as it is, and its error is that of the refusal, so that the
two sides part there and not before. -/
theorem tracks_guarded (call : StoreCall) {x : Action σ StoreError α} (hx : Tracks Q Never x x) :
    Tracks (Inside refuses Q) (Caught refuses Q) (guarded call x) x := by
  rintro s _ ⟨⟨rfl, hrefuses⟩, hQ⟩
  cases hc : s.refuses call (s.calls call) with
  | true =>
    rw [run_guarded_refused hc]
    exact .inr ⟨⟨_, rfl⟩, ⟨rfl, hrefuses⟩, hQ⟩
  | false =>
    rw [run_guarded_made hc]
    exact .inl ⟨rfl, rfl, ⟨rfl, hrefuses⟩, (hx.matches hQ).store⟩

variable [Store σ]

theorem readsTrack_inside (h : ReadsTrack Q Never) :
    ReadsTrack (Inside refuses Q) (Caught refuses Q) where
  get key := tracks_guarded .get (h.get key)
  scan scan := tracks_guarded .scan (h.scan scan)
  entry e := tracks_guarded .entry (h.entry e)
  contents hst := congrArg Store.contents hst.1.store

theorem callsTrack_inside (h : CallsTrack Q Never) :
    CallsTrack (Inside refuses Q) (Caught refuses Q) where
  toReadsTrack := readsTrack_inside h.toReadsTrack
  put key value := tracks_guarded .put (h.put key value)
  delete key := tracks_guarded .delete (h.delete key)

end RefusingStore

open RefusingStore

/-- Whether a schedule lets every commit and every rollback through. -/
def Schedule.LetsEnd (refuses : Schedule) : Prop :=
  ∀ n, refuses .commit n = false ∧ refuses .rollback n = false

/-- **Endurance.**  Under refusals that let invocations end, `x` answers as `y` does without faults,
or fails with an error of the store and leaves it as it was. -/
def Endures [StoreFailure ε] (x : Action (RefusingStore ReferenceStore) ε α)
    (y : Action ReferenceStore ε α) : Prop :=
  ∀ (refuses : Schedule), refuses.LetsEnd → ∀ {s t}, Above refuses s t → t.saved = none →
    (y.run t).Settles t ∧
      ((x.run s).Matches (Above refuses) (y.run t) ∨ (x.run s).Strays (Above refuses · t))

section

variable {refuses : Schedule} {s : RefusingStore ReferenceStore} {m written : KeyMap Bytes}
  {space : Option String}

/-- A commit that is let through closes the invocation. -/
theorem run_commit (hlet : s.refuses .commit (s.calls .commit) = false)
    (hs : s.store = ⟨written, some m, space⟩) :
    (Store.commit : Action (RefusingStore ReferenceStore) StoreError Unit).run s =
      ⟨.ok (), { s.counted .commit with store := ⟨written, none, space⟩ }, []⟩ := by
  refine (run_guarded_made hlet _).trans ?_
  rw [hs]
  rfl

/-- A rollback that is let through goes back to the saved copy. -/
theorem run_rollback (hlet : s.refuses .rollback (s.calls .rollback) = false)
    (hs : s.store = ⟨written, some m, space⟩) :
    (Store.rollback : Action (RefusingStore ReferenceStore) StoreError Unit).run s =
      ⟨.ok (), { s.counted .rollback with store := ⟨m, none, space⟩ }, []⟩ := by
  refine (run_guarded_made hlet _).trans ?_
  rw [hs]
  rfl

end

section

variable [StoreFailure ε]

/-- **Invocations endure.**  A refusal in the body leaves the saved copy where it is, so the
rollback brings it back; the only other refusal is that of the beginning, before which nothing is
written. -/
theorem endures_atomically {x : ∀ (σ : Type) [Store σ], Action σ ε α} (hx : MadeOfCalls x) :
    Endures (atomically (x (RefusingStore ReferenceStore))) (atomically (x ReferenceStore)) := by
  rintro refuses hends s _ ⟨rfl, rfl⟩ ht
  refine ⟨hx.settles ht, ?_⟩
  obtain ⟨m, space, hs⟩ : ∃ m space, s.store = ⟨m, none, space⟩ :=
    ⟨s.store.entries, s.store.space, by rw [← ht]⟩
  obtain ⟨r, written, events, hy⟩ := hx.run_underway m space
  rw [hs, atomically_run hy]
  cases hc : s.refuses .begin (s.calls .begin) with
  | true =>
    rw [atomically_run_unbegun (run_guarded_refused hc _)]
    exact .inr ⟨⟨_, rfl⟩, hs, rfl⟩
  | false =>
    let s₁ : RefusingStore ReferenceStore := { s.counted .begin with store := ⟨m, some m, space⟩ }
    have hbegin : (Store.begin : Action (RefusingStore ReferenceStore) StoreError Unit).run s
        = ⟨.ok (), s₁, []⟩ := by
      refine (run_guarded_made hc _).trans ?_
      rw [hs]
      rfl
    rcases hx (callsTrack_inside callsTrack_underway) s₁ _ ⟨⟨rfl, rfl⟩, rfl, m, rfl⟩
      with hm | ⟨⟨e, he⟩, hcaught⟩
    · -- no refusal in the body: the invocation ends as it does without faults
      rw [hy] at hm
      obtain ⟨habove, hunderway⟩ := hm.store
      have hbody := outcome_eq hm.result hm.events
      have hends' := habove.refuses ▸ hends
      cases r with
      | ok a =>
        rw [atomically_run_ok hbegin hbody (run_commit (hends' _).1 habove.store)]
        exact .inl ⟨rfl, rfl, rfl, habove.refuses⟩
      | error e =>
        rw [atomically_run_error hbegin hbody (run_rollback (hends' _).2 habove.store)]
        exact .inl ⟨rfl, rfl, rfl, habove.refuses⟩
    · -- a refusal in the body: the saved copy is still there for the rollback
      obtain ⟨habove, -, written', hw⟩ := hcaught
      have hbody := outcome_eq he rfl
      rw [atomically_run_error hbegin hbody (run_rollback ((habove.refuses ▸ hends) _).2 hw)]
      exact .inr ⟨⟨e, rfl⟩, rfl, habove.refuses⟩

/-- What is made of reads endures outside an invocation too: it has nothing to take back. -/
theorem endures_reads {x : ∀ (σ : Type) [Store σ], Action σ ε α} (hx : MadeOfReads x) :
    Endures (x (RefusingStore ReferenceStore)) (x ReferenceStore) := by
  rintro refuses - s v habove hv
  have hkept := ((hx (readsTrack_unchanged v)).matches ⟨rfl, rfl⟩).store.1
  refine ⟨⟨hkept.symm ▸ hv, fun _ _ => hkept⟩, ?_⟩
  rcases hx (readsTrack_inside (readsTrack_unchanged v)) s v ⟨habove, habove.store, rfl⟩
    with hm | ⟨he, habove', hs, -⟩
  · exact .inl ⟨hm.result, hm.events, hm.store.1⟩
  · exact .inr ⟨he, hs, habove'.refuses⟩

theorem endures_map {x : Action (RefusingStore ReferenceStore) ε α} {y : Action ReferenceStore ε α}
    (f : α → β) (hx : Endures x y) : Endures (f <$> x) (f <$> y) := by
  intro refuses hends s t habove ht
  obtain ⟨⟨hclosed, hkept⟩, hm⟩ := hx refuses hends habove ht
  rw [run_map, run_map]
  refine ⟨⟨hclosed, fun e he => ?_⟩, ?_⟩
  · -- what is mapped are answers, so an error is that of the action itself
    cases hy : (y.run t).result with
    | ok a =>
      rw [hy] at he
      cases he
    | error e' => exact hkept e' hy
  · rcases hm with hm | ⟨⟨e, he⟩, habove'⟩
    · exact .inl ⟨congrArg (Except.map f) hm.result, hm.events, hm.store⟩
    · exact .inr ⟨⟨e, congrArg (Except.map f) he⟩, habove'⟩

/-- What is decided before an action endures with it. -/
theorem endures_ofExcept {r : Except ε α} {f : α → Action (RefusingStore ReferenceStore) ε β}
    {g : α → Action ReferenceStore ε β} (hf : ∀ a, Endures (f a) (g a)) :
    Endures (.ofExcept r >>= f) (.ofExcept r >>= g) := by
  cases r with
  | ok a => exact hf a
  | error e =>
    intro refuses hends s t habove ht
    exact ⟨⟨ht, fun _ _ => rfl⟩, .inl ⟨rfl, rfl, habove⟩⟩

end

/-! ## Transfer -/

namespace RefusingStore

/-- Refusing stores over related stores, with the same schedule and the same calls so far. -/
structure Alike (R : σ → τ → Prop) (s : RefusingStore σ) (t : RefusingStore τ) : Prop where
  store : R s.store t.store
  refuses : s.refuses = t.refuses
  calls : s.calls = t.calls

/-- Under the same schedule, with as many calls made so far, the same calls are refused on two
stores. -/
theorem tracks_alike {R : σ → τ → Prop} (call : StoreCall) {x : Action σ StoreError α}
    {y : Action τ StoreError α} (hxy : Tracks R Never x y) :
    Tracks (Alike R) Never (guarded call x) (guarded call y) := by
  rintro ⟨s, refuses, calls⟩ ⟨t, _, _⟩ ⟨hst, rfl, rfl⟩
  cases hc : refuses call (calls call) with
  | true =>
    rw [run_guarded_refused hc, run_guarded_refused hc]
    exact .inl ⟨rfl, rfl, hst, rfl, rfl⟩
  | false =>
    rw [run_guarded_made hc, run_guarded_made hc]
    have hm := hxy.matches hst
    exact .inl ⟨hm.result, hm.events, hm.store, rfl, rfl⟩

/-- What simulates a store simulates it under the same refusals, since both sides count the same
calls. -/
theorem simulates_alike [Store σ] [Store τ] {R : σ → τ → Prop} (h : Simulates R) :
    Simulates (Alike R) where
  get key := tracks_alike .get (h.get key)
  scan scan := tracks_alike .scan (h.scan scan)
  entry e := tracks_alike .entry (h.entry e)
  contents hst := h.contents hst.store
  put key value := tracks_alike .put (h.put key value)
  delete key := tracks_alike .delete (h.delete key)
  begin := tracks_alike .begin h.begin
  commit := tracks_alike .commit h.commit
  rollback := tracks_alike .rollback h.rollback

end RefusingStore

section

variable [Store σ] [LawfulStore σ] {s : RefusingStore σ}

/-- A call that is let through answers as on the reference store that is shown, and what is shown
afterwards is what it leaves there. -/
theorem run_let_through {call : StoreCall} {x : Action σ StoreError α}
    {y : Action ReferenceStore StoreError α} (hxy : Tracks Shows Never x y) {t : ReferenceStore}
    (hs : Shows s.store t) (hlet : s.refuses call (s.calls call) = false) :
    ∃ s', (guarded call x).run s = ⟨(y.run t).result, s', (y.run t).events⟩ ∧
      Shows s'.store (y.run t).store ∧ s'.refuses = s.refuses ∧ s'.calls = (s.counted call).calls := by
  have hm := hxy.matches hs
  exact ⟨_, (run_guarded_made hlet x).trans (outcome_eq hm.result hm.events), hm.store, rfl, rfl⟩

/-- No invocation begins while another one is open.  The attempt counts as a call, and leaves the open
one as it is. -/
theorem run_begin_open {m written : KeyMap Bytes} {space : Option String}
    (hs : Shows s.store ⟨written, some m, space⟩)
    (hlet : s.refuses .begin (s.calls .begin) = false) :
    ∃ s', (Store.begin : Action (RefusingStore σ) StoreError Unit).run s
        = ⟨.error .alreadyOpen, s', []⟩ ∧
      Shows s'.store ⟨written, some m, space⟩ ∧ s'.refuses = s.refuses ∧
        s'.calls = (s.counted .begin).calls :=
  run_let_through LawfulStore.simulates.begin hs hlet

end

end ThreatLedger
