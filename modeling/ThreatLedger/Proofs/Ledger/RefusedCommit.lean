/-
  What becomes of an invocation whose commit is refused.

  1. **Open stores** — an invocation whose commit is refused stays open, and no other one begins on a
     store that has one open.
  2. **Stalling** — an action stalls if, where its commit is refused, it fails as it would without the
     refusal, or would have succeeded and is left open with what it has written.  Invocations stall, and
     with them the operations that are made of one.
  3. **Operations** — on every lawful store each operation of the ledger, each creation of an object
     and each invocation stalls (`refused_commit_left_open`): only the failure of its body takes an
     invocation back, and then there is nothing to commit.  What is left open blocks every invocation
     that follows.
-/
import ThreatLedger.Proofs.Ledger.Bodies
import ThreatLedger.Proofs.Stix.Catalog
import ThreatLedger.Proofs.Store.Backends

open ThreatLedger.Action

namespace ThreatLedger

open RefusingStore

variable {σ ε α β : Type}

/-! ## Open stores -/

section

variable [Store σ]

/-- Whether no invocation begins on a store: each one fails because another one is open. -/
def RefusingStore.Blocked (s : RefusingStore σ) : Prop :=
  ∀ (ε β : Type) [StoreFailure ε] (z : Action (RefusingStore σ) ε β),
    ((atomically z).run s).result = .error (StoreFailure.ofStore .alreadyOpen)

/-- A store with an open invocation is blocked, as long as its refusal to begin another one is let
through. -/
theorem blocked_of_open [LawfulStore σ] {s : RefusingStore σ} {m written : KeyMap Bytes}
    {space : Option String} (hs : Shows s.store ⟨written, some m, space⟩)
    (hlet : s.refuses .begin (s.calls .begin) = false) : s.Blocked := by
  intro ε β _ z
  obtain ⟨s', hbegin, -⟩ := run_begin_open hs hlet
  rw [atomically_run_unbegun hbegin]

end

/-! ## Stalling -/

/-- Whether a schedule refuses nothing but commits. -/
def Schedule.OnlyCommits (refuses : Schedule) : Prop :=
  ∀ call n, call ≠ .commit → refuses call n = false

namespace RefusingStore

/-- A refusing store over a store, of which `Q` holds, after a number of commits. -/
def AfterCommits (refuses : Schedule) (count : Nat) (Q : σ → σ → Prop) (s : RefusingStore σ)
    (t : σ) : Prop :=
  Inside refuses Q s t ∧ s.calls .commit = count

section

variable {refuses : Schedule} {count : Nat} {Q : σ → σ → Prop}

/-- A call that is no commit is let through, and counts for none.  The schedule refuses commits alone,
so it has nothing to say here. -/
theorem tracks_let_through (honly : refuses.OnlyCommits) {call : StoreCall} (hcall : call ≠ .commit)
    {x : Action σ StoreError α} (hx : Tracks Q Never x x) :
    Tracks (AfterCommits refuses count Q) Never (guarded call x) x := by
  rintro s _ ⟨⟨⟨rfl, rfl⟩, hQ⟩, hcount⟩
  rw [run_guarded_made (honly call _ hcall)]
  have hcalls : (s.counted call).calls .commit = count := (if_neg hcall.symm).trans hcount
  exact .inl ⟨rfl, rfl, ⟨⟨rfl, rfl⟩, (hx.matches hQ).store⟩, hcalls⟩

/-- Calls inside an invocation count no commit, so that the next refusal is still to come. -/
theorem callsTrack_afterCommits [Store σ] (honly : refuses.OnlyCommits) (h : CallsTrack Q Never) :
    CallsTrack (AfterCommits refuses count Q) Never where
  get key := tracks_let_through honly (by decide) (h.get key)
  scan scan := tracks_let_through honly (by decide) (h.scan scan)
  entry e := tracks_let_through honly (by decide) (h.entry e)
  contents hst := congrArg Store.contents hst.1.1.store
  put key value := tracks_let_through honly (by decide) (h.put key value)
  delete key := tracks_let_through honly (by decide) (h.delete key)

end
end RefusingStore

section

variable [StoreFailure ε]

/-- How an outcome under a refused commit compares with the one without, from a store `s`: the same
failure, with nothing changed, or a success that is left open under the same schedule. -/
inductive Outcome.Stalls (s : RefusingStore ReferenceStore)
    (o : Outcome (RefusingStore ReferenceStore) ε α) (p : Outcome ReferenceStore ε α) : Prop
  | failed {e : ε} : o.result = .error e → p.result = .error e → o.store.store = s.store →
    Stalls s o p
  | stalled {a : α} {written : KeyMap Bytes} :
    o.result = .error (StoreFailure.ofStore (.refused .commit)) → p.result = .ok a →
    p.store = ⟨written, none, s.store.space⟩ →
    o.store.store = ⟨written, some s.store.entries, s.store.space⟩ →
    o.store.refuses = s.refuses → Stalls s o p

/-- From every store without an open invocation, whose next commit is refused, `x` stalls where `y` runs
without refusals. -/
def Stalls (x : Action (RefusingStore ReferenceStore) ε α) (y : Action ReferenceStore ε α) : Prop :=
  ∀ s : RefusingStore ReferenceStore, s.store.saved = none → s.refuses.OnlyCommits →
    s.refuses .commit (s.calls .commit) = true → (x.run s).Stalls s (y.run s.store)

/-- **Invocations stall.**  The body runs as without refusals.  If it fails, the rollback finds the saved
copy; if it succeeds, the commit is refused, and no rollback follows. -/
theorem stalls_atomically {x : ∀ (σ : Type) [Store σ], Action σ ε α} (hx : MadeOfCalls x) :
    Stalls (atomically (x (RefusingStore ReferenceStore))) (atomically (x ReferenceStore)) := by
  rintro ⟨⟨m, saved, space⟩, refuses, calls⟩ (rfl : saved = none) honly hrefused
  let s : RefusingStore ReferenceStore := ⟨⟨m, none, space⟩, refuses, calls⟩
  let s₁ : RefusingStore ReferenceStore := { s.counted .begin with store := ⟨m, some m, space⟩ }
  have hbegin : (Store.begin : Action (RefusingStore ReferenceStore) StoreError Unit).run s
      = ⟨.ok (), s₁, []⟩ := run_guarded_made (honly .begin _ (by decide)) _
  obtain ⟨r, written, events, hy⟩ := hx.run_underway m space
  have hm := (hx (callsTrack_afterCommits honly callsTrack_underway)).matches
    (s := s₁) ⟨⟨⟨rfl, rfl⟩, rfl, m, rfl⟩, rfl⟩
  rw [hy] at hm
  obtain ⟨⟨habove, -⟩, hcount⟩ := hm.store
  have hbody := outcome_eq hm.result hm.events
  rw [atomically_run hy]
  cases r with
  | ok a =>
    -- the body has committed nothing, so the refusal that was next is still next
    have hnow : ((x _).run s₁).store.refuses .commit (((x _).run s₁).store.calls .commit) = true := by
      rw [habove.refuses, hcount]
      exact hrefused
    have hcommit := run_guarded_refused hnow (Store.commit : Action ReferenceStore StoreError Unit)
    rw [atomically_run_uncommitted hbegin hbody hcommit]
    exact .stalled rfl rfl rfl habove.store habove.refuses
  | error e =>
    have hlet := habove.refuses ▸ honly .rollback (((x _).run s₁).store.calls .rollback) (by decide)
    rw [atomically_run_error hbegin hbody (run_rollback hlet habove.store)]
    exact .failed rfl rfl rfl

/-- To map the answer of an action changes nothing of whether it stalls: on the store that refuses its
commit there is none. -/
theorem stalls_map {x : Action (RefusingStore ReferenceStore) ε α} {y : Action ReferenceStore ε α}
    (f : α → β) (hx : Stalls x y) : Stalls (f <$> x) (f <$> y) := by
  intro s hs honly hrefused
  rw [run_map, run_map]
  cases hx s hs honly hrefused with
  | failed ho hp hstore => exact .failed (by rw [ho]; rfl) (by rw [hp]; rfl) hstore
  | stalled ho hp hkept hstore hrefuses =>
    exact .stalled (by rw [ho]; rfl) (by rw [hp]; rfl) hkept hstore hrefuses

/-- What is decided before an action stalls with it: an error of the decision is answered on both sides,
and neither store is touched. -/
theorem stalls_ofExcept {r : Except ε α} {f : α → Action (RefusingStore ReferenceStore) ε β}
    {g : α → Action ReferenceStore ε β} (hf : ∀ a, Stalls (f a) (g a)) :
    Stalls (.ofExcept r >>= f) (.ofExcept r >>= g) := by
  cases r with
  | ok a => exact hf a
  | error e =>
    intro s hs honly hrefused
    exact .failed rfl rfl rfl

end

namespace Ledger

/-- **Commands stall**, whatever their bodies do: each of them is one invocation. -/
theorem stalls_run (session : Session) (command : Command) :
    Stalls (command.run session) (command.run session) :=
  related_run_of_calls stalls_map stalls_ofExcept stalls_atomically session command

end Ledger

/-- **Creations of objects stall**: they are decided on, and then one invocation. -/
theorem Stix.Catalog.stalls_create (kind : Kind) (text : String) :
    Stalls (create kind text) (create kind text) :=
  stalls_ofExcept fun o => stalls_map (fun _ => o) (stalls_atomically (storeNew_calls kind o))

/-! ## Operations -/

section

variable [Store σ] [LawfulStore σ] [StoreFailure ε]

/-- On the store `s`, whose entries are `m` and whose next commit is refused, `x` fails and changes
nothing if `y` fails on the store beneath.  If `y` succeeds there, then `x` fails as well, the entries
that `y` leaves are those of an open invocation, and no other invocation begins. -/
structure Action.LeftOpen (x : Action (RefusingStore σ) ε α) (y : Action σ ε α) (s : RefusingStore σ)
    (m : KeyMap Bytes) : Prop where
  failed : ∀ e, (y.run s.store).result = .error e →
    (x.run s).result = .error e ∧ Holds (x.run s).store.store m
  stalled : ∀ a, (y.run s.store).result = .ok a →
    (x.run s).result = .error (StoreFailure.ofStore (.refused .commit)) ∧
      ∃ written space, Holds (y.run s.store).store written ∧
        Shows (x.run s).store.store ⟨written, some m, space⟩ ∧ (x.run s).store.Blocked

/-- What stalls on the reference store is left open on every lawful one, with what was written still to
be seen, and the map that was saved for a rollback beside it. -/
theorem leftOpen_of_stalls {x : Action (RefusingStore σ) ε α} {y : Action σ ε α}
    {x' : Action (RefusingStore ReferenceStore) ε α} {y' : Action ReferenceStore ε α}
    (hx : Tracks (Alike Shows) Never x x') (hy : Tracks Shows Never y y') (hstalls : Stalls x' y')
    {s : RefusingStore σ} {m : KeyMap Bytes} (hs : Holds s.store m) (honly : s.refuses.OnlyCommits)
    (hrefused : s.refuses .commit (s.calls .commit) = true) : x.LeftOpen y s m := by
  obtain ⟨space, hshows⟩ := hs
  let t : RefusingStore ReferenceStore := ⟨⟨m, none, space⟩, s.refuses, s.calls⟩
  have hmx := hx.matches (t := t) ⟨hshows, rfl, rfl⟩
  have hmy := hy.matches hshows
  have hxs := hmx.store.store
  have hys := hmy.store
  -- what fails on the lawful store fails on the reference store, so that the cases exclude each other
  cases hstalls t rfl honly hrefused with
  | failed ho hp hstore =>
    rw [hstore] at hxs
    refine ⟨fun e he => ?_, fun a ha => ?_⟩
    · cases hp.symm.trans (hmy.result.symm.trans he)
      exact ⟨hmx.result.trans ho, space, hxs⟩
    · cases hp.symm.trans (hmy.result.symm.trans ha)
  | stalled ho hp hkept hstore hrefuses =>
    rw [hkept] at hys
    rw [hstore] at hxs
    have hsame : (x.run s).store.refuses = s.refuses := hmx.store.refuses.trans hrefuses
    have hblocked := blocked_of_open hxs (hsame ▸ honly .begin _ (by decide))
    refine ⟨fun e he => ?_, fun a _ => ⟨hmx.result.trans ho, _, space, ⟨space, hys⟩, hxs, hblocked⟩⟩
    cases hp.symm.trans (hmy.result.symm.trans he)

end

section

variable [Store σ] [LawfulStore σ]

/-- **Refused commits.**  Where the commit of an operation is refused, and nothing else is, the operation
is only taken back if it fails by itself.  If it would have succeeded, its caller gets the refusal, but
what it has written stays to be seen, and the invocation stays open, so that no other one begins: that
holds of the operations of the ledger, of the creation of an object, and of every other invocation. -/
theorem refused_commit_left_open (s : RefusingStore σ) (m : KeyMap Bytes) (hs : Holds s.store m)
    (honly : s.refuses.OnlyCommits) (hrefused : s.refuses .commit (s.calls .commit) = true) :
    (∀ (session : Session) (command : Ledger.Command),
        (command.run session).LeftOpen (command.run session) s m) ∧
      (∀ (kind : Stix.Kind) (text : String),
        (Stix.Catalog.create kind text).LeftOpen (Stix.Catalog.create kind text) s m) ∧
      ∀ {ε α : Type} [StoreFailure ε] (x : ∀ (σ : Type) [Store σ], Action σ ε α), MadeOfCalls x →
        (atomically (x (RefusingStore σ))).LeftOpen (atomically (x σ)) s m := by
  have simulates := LawfulStore.simulates (σ := σ)
  have alike := simulates_alike (LawfulStore.simulates (σ := σ))
  -- each of the three stalls on the reference store, and is tracked there from here, with its commit
  -- refused and without
  refine ⟨fun session command => ?_, fun kind text => ?_, fun x hx => ?_⟩
  · exact leftOpen_of_stalls (Ledger.tracks_run alike session command)
      (Ledger.tracks_run simulates session command) (Ledger.stalls_run session command) hs honly hrefused
  · exact leftOpen_of_stalls (Stix.Catalog.tracks_create alike kind text)
      (Stix.Catalog.tracks_create simulates kind text) (Stix.Catalog.stalls_create kind text) hs honly
      hrefused
  · exact leftOpen_of_stalls (alike.atomically (hx alike.toCallsTrack))
      (simulates.atomically (hx simulates.toCallsTrack)) (stalls_atomically hx) hs honly hrefused

end

/-- An empty store in memory that refuses every commit. -/
def refusingCommits : RefusingStore MemoryStore :=
  .ofStore .empty (.after fun call => if call = .commit then some 0 else none)

/-- The seed records stay to be seen, over the empty map that was saved for a rollback. -/
theorem seeds_left_open :
    let o := (Ledger.Command.init.run ⟨.ofRole "HeadOfOperations", .rbac⟩).run refusingCommits
    o.result = .error (.store (.refused .commit)) ∧
      ∃ written space, written ≠ KeyMap.empty ∧ Shows o.store.store ⟨written, some .empty, space⟩ ∧
        o.store.Blocked := by
  have hs : Holds refusingCommits.store .empty := (MemoryStore.holds_iff _ _).mpr rfl
  have honly : refusingCommits.refuses.OnlyCommits := fun call n hcall => by
    simp only [refusingCommits, RefusingStore.ofStore, Schedule.after, if_neg hcall]
  obtain ⟨hresult, written, space, hwritten, hopen⟩ :=
    ((refused_commit_left_open refusingCommits .empty hs honly rfl).1
      ⟨.ofRole "HeadOfOperations", .rbac⟩ .init).stalled .done rfl
  refine ⟨hresult, written, space, ?_, hopen⟩
  rintro rfl
  cases hwritten.contents

/-- A refused commit is not taken back: the seed records are there afterwards, and the next reader is
told that another invocation is open. -/
theorem refused_commit_not_taken_back :
    let o := (Ledger.Command.init.run ⟨.ofRole "HeadOfOperations", .rbac⟩).run refusingCommits
    o.result = .error (.store (.refused .commit)) ∧ ¬Holds o.store.store .empty ∧
      (((Ledger.Command.read "12345").run ⟨.ofRole "HeadOfOperations", .rbac⟩).run o.store).result
        = .error (.store .alreadyOpen) := by
  refine ⟨rfl, fun h => ?_, rfl⟩
  cases h.contents

end ThreatLedger
