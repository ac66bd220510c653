/-
  Closures: programs that run as one invocation.

  1. **Closures** — a closure goes on from the result of each call that it makes, be it an error, and
     ends with a result of its own.  Among its steps may be invocations, with closures of their own.
  2. **Writes** — the writes of a closure that succeed, in order.  What is written in the invocations
     inside it is not among them.
  3. **Calls** — while an invocation is open, a call changes the entries by its writes if it succeeds and
     leaves them as they are if it fails; the saved copy stays.
  4. **Invocations inside** — an invocation inside a closure cannot begin: nothing of its own closure is
     run, and the one around it goes on as it was (`Outcome.Barred`).
  5. **Ends** — by induction on the closure, what it leaves is what its writes make of the entries, over
     the copy that was saved (`Closure.run_opened`).  The commit keeps that and the rollback takes it
     back (`atomically_closure`).
-/
import ThreatLedger.Proofs.Store.Backends
import ThreatLedger.Proofs.Store.Invocations

open ThreatLedger.Action

namespace ThreatLedger

open RefusingStore

/-! ## Closures -/

/-- A call that a closure can make, by what it is answered with. -/
inductive Closure.Call : Type → Type
  | get (key : String) : Call (Option Bytes)
  | put (key : String) (value : Bytes) : Call Unit
  | delete (key : String) : Call Unit
  | scan (range : Scan) : Call ScanPage
  | entry (e : Entry) : Call Entry

/-- A program on a store: it ends with a result, or goes on from the result of a call or of an invocation
of another program. -/
inductive Closure : Type → Type → Type 1
  | done {ε α : Type} (result : Except ε α) : Closure ε α
  | call {ε α β : Type} (c : Closure.Call β) (next : Except StoreError β → Closure ε α) : Closure ε α
  | invocation {ε α ε' β : Type} [StoreFailure ε'] (body : Closure ε' β)
    (next : Except ε' β → Closure ε α) : Closure ε α

namespace Closure

section

variable {σ : Type} [Store σ]

/-- Makes a call. -/
def Call.run {β : Type} : Call β → Action σ StoreError β
  | .get key => Store.get key
  | .put key value => Store.put key value
  | .delete key => Store.delete key
  | .scan range => Store.scan range
  | .entry e => Store.entry e

/-- Carries a closure out. -/
def run {ε α : Type} : Closure ε α → Action σ ε α
  | .done result => .ofExcept result
  | .call c next => do
    let result ← c.run.attempt
    (next result).run
  | @invocation _ _ _ _ _ body next => do
    let result ← (atomically body.run).attempt
    (next result).run

/-- A closure goes on from the result of a call, on the store that the call leaves. -/
theorem run_call {ε α β : Type} (c : Call β) (next : Except StoreError β → Closure ε α) (s : σ) :
    (Closure.call c next).run.run s =
      ((next (c.run.run s).result).run.run (c.run.run s).store).after (c.run.run s).events := by
  rw [run, run_bind, run_attempt]

/-- A closure goes on from the result of an invocation, on the store that the invocation leaves. -/
theorem run_invocation {ε α ε' β : Type} [StoreFailure ε'] (body : Closure ε' β)
    (next : Except ε' β → Closure ε α) (s : σ) :
    (Closure.invocation body next).run.run s =
      ((next ((atomically body.run).run s).result).run.run ((atomically body.run).run s).store).after
        ((atomically body.run).run s).events := by
  rw [run, run_bind, run_attempt]

end
end Closure

/-! ## Writes -/

/-- A change of one key. -/
inductive Write
  | put (key : String) (value : Bytes)
  | delete (key : String)
  deriving DecidableEq, Repr

/-- What a change makes of a map. -/
def Write.apply (m : KeyMap Bytes) : Write → KeyMap Bytes
  | .put key value => m.insert key value
  | .delete key => m.erase key

/-- What changes make of a map, one after the other. -/
def Write.applyAll (m : KeyMap Bytes) (writes : List Write) : KeyMap Bytes := writes.foldl apply m

namespace Closure

/-- The changes that a call asks for. -/
def Call.writes {β : Type} : Call β → List Write
  | .put key value => [.put key value]
  | .delete key => [.delete key]
  | .get _ | .scan _ | .entry _ => []

/-- The changes that a call makes if it gives a result. -/
def Call.writesOf {β : Type} (c : Call β) : Except StoreError β → List Write
  | .ok _ => c.writes
  | .error _ => []

/-- The changes that a closure makes with success, in order, but for those of the invocations inside
it. -/
def writes {σ : Type} [Store σ] {ε α : Type} : Closure ε α → σ → List Write
  | .done _, _ => []
  | .call c next, s =>
    let o := c.run.run s
    c.writesOf o.result ++ (next o.result).writes o.store
  | @invocation _ _ _ _ _ body next, s =>
    let o := (atomically body.run).run s
    (next o.result).writes o.store

end Closure

/-! ## Calls -/

section

variable {σ ε α β : Type} [Store σ] [LawfulStore σ] {s : RefusingStore σ} {refuses : Schedule}
  {m written : KeyMap Bytes} {space : Option String}

/-- A store with an open invocation, by the entries it shows and the copy it has saved. -/
structure RefusingStore.OpenOver (refuses : Schedule) (m : KeyMap Bytes) (space : Option String)
    (s : RefusingStore σ) (written : KeyMap Bytes) : Prop where
  shows : Shows s.store ⟨written, some m, space⟩
  refuses : s.refuses = refuses

/-- A call that has its effect on the reference store, and may be refused. -/
theorem opened_guarded {c : Closure.Call β} {call : StoreCall} {x : Action σ StoreError β}
    {y : Action ReferenceStore StoreError β} (hxy : Tracks Shows Never x y)
    (hy : (y.run ⟨written, some m, space⟩).store =
      ⟨Write.applyAll written (c.writesOf (y.run ⟨written, some m, space⟩).result), some m, space⟩)
    (hs : OpenOver refuses m space s written) :
    let o := (guarded call x).run s
    OpenOver refuses m space o.store (Write.applyAll written (c.writesOf o.result)) := by
  cases hc : s.refuses call (s.calls call) with
  -- a call that is refused has not been made, and has no writes
  | true =>
    rw [run_guarded_refused hc]
    exact ⟨hs.shows, hs.refuses⟩
  | false =>
    obtain ⟨s', hrun, hshows, hsame, -⟩ := run_let_through hxy hs.shows hc
    rw [hy] at hshows
    rw [hrun]
    exact ⟨hshows, hsame.trans hs.refuses⟩

/-- **Calls.**  A call changes the entries of an open invocation by its writes, unless it fails.  The
cases are those of the calls; a call that is refused has no writes. -/
theorem Closure.Call.run_opened (c : Closure.Call β) (hs : OpenOver refuses m space s written) :
    let o := c.run.run s
    OpenOver refuses m space o.store (Write.applyAll written (c.writesOf o.result)) := by
  have laws := LawfulStore.simulates (σ := σ)
  cases c with
  | get key => exact opened_guarded (c := .get key) (laws.get key) rfl hs
  | put key value => exact opened_guarded (c := .put key value) (laws.put key value) rfl hs
  | delete key => exact opened_guarded (c := .delete key) (laws.delete key) rfl hs
  | entry e => exact opened_guarded (c := .entry e) (laws.entry e) rfl hs
  | scan range =>
    refine opened_guarded (c := .scan range) (laws.scan range) ?_ hs
    rw [store_scan]
    cases ((Store.scan range).run (⟨written, some m, space⟩ : ReferenceStore)).result <;> rfl

/-! ## Invocations inside -/

/-- Whether a schedule lets every beginning and every commit through. -/
def Schedule.LetsCommit (refuses : Schedule) : Prop :=
  ∀ n, refuses .begin n = false ∧ refuses .commit n = false

/-- What becomes of an invocation that is made while another one is open: it fails, reports nothing,
calls nothing but its beginning, and leaves the store to show what it did. -/
structure Outcome.Barred [StoreFailure ε] (s : RefusingStore σ)
    (o : Outcome (RefusingStore σ) ε α) : Prop where
  result : o.result = .error (StoreFailure.ofStore .alreadyOpen)
  events : o.events = []
  calls : o.store.calls = (s.counted .begin).calls
  refuses : o.store.refuses = s.refuses
  shows : ∀ t, Shows s.store t → Shows o.store.store t

/-- **Invocations inside** an open one are barred, whatever they would do: their beginning is answered
with an error, and so their closure is not run. -/
theorem barred_of_opened [StoreFailure ε] (hlet : refuses.LetsCommit)
    (hs : OpenOver refuses m space s written) (x : Action (RefusingStore σ) ε α) :
    ((atomically x).run s).Barred s := by
  have hnow : s.refuses .begin (s.calls .begin) = false := hs.refuses ▸ (hlet _).1
  obtain ⟨s', hbegin, -, hsame, hcalls⟩ := run_begin_open hs.shows hnow
  rw [atomically_run_unbegun hbegin]
  refine ⟨rfl, rfl, hcalls, hsame, fun t ht => ?_⟩
  obtain ⟨s'', hbegin', hshows, -⟩ := run_let_through LawfulStore.simulates.begin ht hnow
  have hruns := hbegin.symm.trans hbegin'
  -- every reference store that is shown has an invocation open, for the beginning fails there too
  obtain ⟨entries, saved, space'⟩ := t
  cases saved with
  | none => cases hruns
  | some old =>
    cases hruns
    exact hshows

/-- Whether all invocations inside a closure are barred, each one where the closure comes to it. -/
def Closure.AllBarred {ε α : Type} : Closure ε α → RefusingStore σ → Prop
  | .done _, _ => True
  | .call c next, s =>
    let o := c.run.run s
    (next o.result).AllBarred o.store
  | @invocation _ _ _ _ _ body next, s =>
    let o := (atomically body.run).run s
    o.Barred s ∧ (next o.result).AllBarred o.store

/-! ## Ends -/

/-- **Closures.**  In an open invocation a closure changes the entries by its writes, and the invocations
inside it are barred. -/
theorem Closure.run_opened (x : Closure ε α) (hlet : refuses.LetsCommit)
    (hs : OpenOver refuses m space s written) :
    OpenOver refuses m space (x.run.run s).store (Write.applyAll written (x.writes s)) ∧
      x.AllBarred s := by
  induction x generalizing s written with
  | done result => exact ⟨hs, trivial⟩
  | call c next ih =>
    obtain ⟨hopened, hbarred⟩ := ih (c.run.run s).result (c.run_opened hs)
    refine ⟨?_, hbarred⟩
    rw [run_call, writes, Write.applyAll, List.foldl_append]
    exact hopened
  -- an invocation inside is barred, and the closure goes on from the same entries
  | invocation body next _ ih =>
    have hinside := barred_of_opened hlet hs body.run
    have hstill : OpenOver refuses m space ((atomically body.run).run s).store written :=
      ⟨hinside.shows _ hs.shows, hinside.refuses.trans hs.refuses⟩
    obtain ⟨hopened, hbarred⟩ := ih _ hstill
    refine ⟨?_, hinside, hbarred⟩
    rw [run_invocation]
    exact hopened

/-- A beginning that is let through saves the entries. -/
theorem run_begin_opened (hs : Shows s.store ⟨m, none, space⟩)
    (hlet : s.refuses .begin (s.calls .begin) = false) :
    ∃ begun, (Store.begin : Action (RefusingStore σ) StoreError Unit).run s = ⟨.ok (), begun, []⟩ ∧
      OpenOver s.refuses m space begun m := by
  obtain ⟨begun, hrun, hshows, hsame, -⟩ := run_let_through LawfulStore.simulates.begin hs hlet
  exact ⟨begun, hrun, hshows, hsame⟩

/-- The commit keeps what an invocation has written, and the entries that were saved for a rollback are
given up. -/
theorem RefusingStore.OpenOver.commit (hs : OpenOver refuses m space s written)
    (hlet : refuses .commit (s.calls .commit) = false) :
    ∃ s', (Store.commit : Action (RefusingStore σ) StoreError Unit).run s = ⟨.ok (), s', []⟩ ∧
      Holds s'.store written := by
  obtain ⟨s', hrun, hshows, -⟩ :=
    run_let_through LawfulStore.simulates.commit hs.shows (hs.refuses ▸ hlet)
  exact ⟨s', hrun, space, hshows⟩

/-- The rollback goes back to what was there before, whatever has been written since. -/
theorem RefusingStore.OpenOver.rollback (hs : OpenOver refuses m space s written)
    (hlet : refuses .rollback (s.calls .rollback) = false) :
    ∃ s', (Store.rollback : Action (RefusingStore σ) StoreError Unit).run s = ⟨.ok (), s', []⟩ ∧
      Holds s'.store m := by
  obtain ⟨s', hrun, hshows, -⟩ :=
    run_let_through LawfulStore.simulates.rollback hs.shows (hs.refuses ▸ hlet)
  exact ⟨s', hrun, space, hshows⟩

/-- **Closures as invocations.**  Whatever a closure does with the results of its calls, and whichever of
its calls are refused: as one invocation it answers with its own result.  If that is a success, the
entries are the old ones with its writes; if it is an error, and the rollback is let through, they are the
old ones.  Either way no invocation is open afterwards, and those inside the closure have come to
nothing. -/
theorem atomically_closure [StoreFailure ε] (x : Closure ε α) (s : RefusingStore σ)
    (m : KeyMap Bytes) (hs : Holds s.store m) (hlet : s.refuses.LetsCommit) :
    let begun := ((Store.begin : Action (RefusingStore σ) StoreError Unit).run s).store
    let o := (atomically x.run).run s
    o.result = (x.run.run begun).result ∧
      (∀ a, o.result = .ok a → Holds o.store.store (Write.applyAll m (x.writes begun))) ∧
      (∀ e, o.result = .error e → (∀ n, s.refuses .rollback n = false) → Holds o.store.store m) ∧
      x.AllBarred begun := by
  obtain ⟨space, hshows⟩ := hs
  obtain ⟨begun, hbegin, hbegun⟩ := run_begin_opened hshows (hlet _).1
  obtain ⟨hopened, hbarred⟩ := x.run_opened hlet hbegun
  rw [hbegin]
  dsimp only
  -- the result of the body decides between commit and rollback, and it is the answer in both cases
  cases hx : (x.run.run begun).result with
  | ok a =>
    have hbody := outcome_eq hx rfl
    obtain ⟨s', hcommit, hkept⟩ := hopened.commit (hlet _).2
    rw [atomically_run_ok hbegin hbody hcommit]
    exact ⟨rfl, fun _ _ => hkept, nofun, hbarred⟩
  | error e =>
    have hbody := outcome_eq hx rfl
    have hresult := result_atomically_error hbegin hbody
    refine ⟨hresult, fun a ha => ?_, fun _ _ hback => ?_, hbarred⟩
    · cases hresult.symm.trans ha
    · obtain ⟨s', hrollback, hkept⟩ := hopened.rollback (hback _)
      rw [atomically_run_error hbegin hbody hrollback]
      exact hkept

end

/-- A store in memory with one entry, of whose puts the second one is refused. -/
def refusingSecondPut : RefusingStore MemoryStore :=
  .ofStore ⟨KeyMap.empty.insert "x" [0], none⟩ fun call n => call = .put && n = 1

/-- Puts two keys, tries to put a third one in an invocation between them, deletes a key, and ends as the
result of the invocation tells it to. -/
def wayward (ends : Except StoreError Unit → Except StoreError Unit) : Closure StoreError Unit :=
  .call (.put "a" [1]) fun _ =>
    .invocation (.call (.put "b" [2]) .done) fun inside =>
      .call (.put "c" [3]) fun _ => .call (.delete "x") fun _ => .done (ends inside)

/-- If the closure ends with a success, the first key is put and the last one deleted; if it ends with the
error of the invocation inside it, nothing is. -/
theorem wayward_kept_or_taken_back :
    let kept := (atomically (wayward fun _ => .ok ()).run).run refusingSecondPut
    let back := (atomically (wayward id).run).run refusingSecondPut
    (kept.result = .ok () ∧
      Holds kept.store.store (((KeyMap.empty.insert "x" [0]).insert "a" [1]).erase "x")) ∧
      back.result = .error .alreadyOpen ∧ Holds back.store.store (KeyMap.empty.insert "x" [0]) := by
  have hs : Holds refusingSecondPut.store (KeyMap.empty.insert "x" [0]) :=
    (MemoryStore.holds_iff _ _).mpr rfl
  have hlet : refusingSecondPut.refuses.LetsCommit := fun n => ⟨rfl, rfl⟩
  obtain ⟨hkept, hholds, -⟩ :=
    atomically_closure (wayward fun _ => .ok ()) refusingSecondPut _ hs hlet
  obtain ⟨hback, -, hold, -⟩ := atomically_closure (wayward id) refusingSecondPut _ hs hlet
  exact ⟨⟨hkept, hholds () hkept⟩, hback, hold .alreadyOpen hback fun _ => rfl⟩

end ThreatLedger
