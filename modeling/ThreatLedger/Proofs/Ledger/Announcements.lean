/-
  Which writes are announced, and when.

  1. **Announcements** — the events of the severity `info`, as an account by which nothing is due for an
     error.
  2. **Tasks** — an operation has what it announces when it comes to its commit, and nothing if it fails
     before (`Outcome.Announces`).  The body of an invocation is done before the commit, so a write whose
     commit is refused is announced as well.
  3. **Runs** — on every lawful store, and under every schedule of refusals, an operation makes its
     announcement exactly if it comes to its commit (`announced_before_commit`).
-/
import Mathlib.Data.List.Forall2
import ThreatLedger.Proofs.Ledger.RefusedCommit
import ThreatLedger.Proofs.Ledger.Reports

open ThreatLedger.Action

namespace ThreatLedger

open RefusingStore

variable {σ α : Type}

/-! ## Announcements -/

/-- The events that announce something. -/
def announcements (events : List Event) : List Event := events.filter (·.severity = .info)

/-- The account of announcements, of which none comes with an error. -/
def announcementAccount : Account :=
  .withoutDues (·.severity = .info) (fun _ h => .inr (of_decide_eq_true h)) fun _ => rfl

/-- What a task has to announce counts as announced. -/
theorem Task.Announces.entries {task : Task} {events : List Event} (h : task.Announces events) :
    announcementAccount.entries events = events :=
  List.filter_eq_self.mpr fun event hevent => decide_eq_true (h.severity event hevent)

/-! ## Tasks -/

/-- The outcome of an operation under a schedule, with announcements of which `L` holds if it came to its
commit, and with none otherwise.  Its commit is only refused by a schedule that refuses commits. -/
structure Outcome.Announces (L : List Event → Prop) (refuses : Schedule)
    (o : Outcome (RefusingStore σ) LedgerError α) : Prop where
  came : o.CameToCommit → L (announcements o.events)
  otherwise : ¬o.CameToCommit → announcements o.events = []
  refused : o.result = .error uncommitted → ∃ n, refuses .commit n = true
  schedule : o.store.refuses = refuses

/-- An operation that does not come to its commit has failed before, and nothing is due for that. -/
theorem Outcome.Reports.announces {L : List Event → Prop} {refuses : Schedule}
    {o : Outcome (RefusingStore σ) LedgerError α} (h : o.Reports announcementAccount L refuses) :
    o.Announces L refuses := by
  refine ⟨h.came, fun hnot => ?_, h.refused, h.schedule⟩
  cases hr : o.result with
  | ok b => exact absurd (.inl ⟨b, hr⟩) hnot
  | error e =>
    refine h.failed e hr ?_
    rintro rfl
    exact hnot (.inr hr)

namespace Task

/-- **Tasks** make their announcements when they come to their commit, and only then.  Whether the
commit is let through does not matter, since the announcement has been made by then. -/
theorem announces_run (task : Task) (s : RefusingReference) :
    (task.run.run s).Announces task.Announces s.refuses := by
  have hself : ∀ events, task.Announces events → task.Announces (announcementAccount.entries events) := by
    intro events h
    rw [h.entries]
    exact h
  cases task with
  | ledger session command =>
    have hreports := Ledger.reports_run session command (fun _ _ _ => rfl) hself s
    exact (reports_map _ hreports).announces
  | object kind text => exact (reports_map _ (Stix.Catalog.reports_create kind text hself s)).announces

/-- A task does the same on two stores that simulate each other, so that it is enough to look at the
reference store.  Both kinds of task are invocations of actions that are made of calls. -/
theorem tracks_run {τ : Type} [Store σ] [Store τ] {R : σ → τ → Prop} (h : Simulates R) (task : Task) :
    Tracks R Never task.run task.run := by
  cases task with
  | ledger session command => exact tracks_map _ (Ledger.tracks_run h session command)
  | object kind text => exact tracks_map _ (Stix.Catalog.tracks_create h kind text)

/-- The outcomes of tasks, one after the other. -/
def outcomes [Store σ] (s : σ) (tasks : List Task) : List (Outcome σ LedgerError Unit) :=
  Action.outcomes s (tasks.map Task.run)

end Task

/-! ## Runs -/

section

variable [Store σ] [LawfulStore σ]

/-- **One step.**  A task is announced as on the reference store that is shown, and leaves a store that
shows a reference store again.  By induction on the tasks, a run is. -/
theorem announces_step {s : RefusingStore σ} {t : ReferenceStore} (hs : Shows s.store t) (task : Task) :
    (task.run.run s).Announces task.Announces s.refuses ∧
      ∃ t', Shows (task.run.run s).store.store t' := by
  let r : RefusingReference := ⟨t, s.refuses, s.calls⟩
  have hm := (task.tracks_run (simulates_alike LawfulStore.simulates)).matches (t := r) ⟨hs, rfl, rfl⟩
  obtain ⟨hcame, hotherwise, hrefused, hschedule⟩ := task.announces_run r
  have hiff : (task.run.run s).CameToCommit ↔ (task.run.run r).CameToCommit := by
    unfold Outcome.CameToCommit
    rw [hm.result]
  refine ⟨⟨fun h => ?_, fun h => ?_, fun h => ?_, hm.store.refuses.trans hschedule⟩, _, hm.store.store⟩
  · exact hm.events ▸ hcame (hiff.mp h)
  · exact hm.events ▸ hotherwise fun h' => h (hiff.mpr h')
  · exact hrefused (hm.result.symm.trans h)

/-- **Announcements.**  On every store, whatever it shows, and under every schedule of refusals: an
operation of the ledger or the creation of an object announces its write exactly once if it comes to its
commit, and announces nothing if it does not.  So it announces a write that succeeds, and one whose commit
is refused; if no commit is refused, it announces just what succeeds. -/
theorem announced_before_commit (s : RefusingStore σ) (t : ReferenceStore) (hs : Shows s.store t)
    (tasks : List Task) :
    List.Forall₂ (fun task o => o.Announces task.Announces s.refuses) tasks (Task.outcomes s tasks) := by
  induction tasks generalizing s t with
  | nil => exact .nil
  | cons task tasks ih =>
    obtain ⟨hannounces, t', hs'⟩ := announces_step hs task
    refine .cons hannounces ?_
    rw [← hannounces.schedule]
    exact ih _ t' hs'

end

/-- An empty store in memory that refuses every commit but the first one. -/
def refusingLaterCommits : RefusingStore MemoryStore :=
  .ofStore .empty (.after fun call => if call = .commit then some 1 else none)

/-- The head of operations fills a ledger, deletes a record from it, and asks for that. -/
def headTasks : List Task :=
  [.init, .delete "12345", .read "12345"].map (.ledger ⟨.ofRole "HeadOfOperations", .rbac⟩)

/-- The deletion announces itself and fails.  The read finds its invocation open, and announces nothing. -/
theorem deletion_announced_uncommitted :
    let os := Task.outcomes refusingLaterCommits headTasks
    List.Forall₂ (fun task o => o.Announces task.Announces refusingLaterCommits.refuses) headTasks os ∧
      os.map (fun o => (o.result, announcements o.events)) =
        [(.ok (), [.initialized .headOfOperations]),
          (.error uncommitted, [.deleted "12345" .headOfOperations]),
          (.error (.store .alreadyOpen), [])] :=
  ⟨announced_before_commit refusingLaterCommits ⟨.empty, none, none⟩ rfl headTasks, rfl⟩

/-- A ledger announces that it is initialized although its commit is refused: the event is reported by
the body of the invocation, and the commit comes after that. -/
theorem initialization_announced_uncommitted :
    let task : Task := .ledger ⟨.ofRole "HeadOfOperations", .rbac⟩ .init
    let o := task.run.run refusingCommits
    o.result = .error uncommitted ∧ announcements o.events = [.initialized .headOfOperations] :=
  ⟨rfl, rfl⟩

end ThreatLedger
