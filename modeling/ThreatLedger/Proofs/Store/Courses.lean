/-
  How an invocation goes on a store that refuses some of its calls.

  1. **Ends** — a beginning is refused, or finds an invocation open, or begins one; a body that is made of
     calls leaves it open; and what has failed is taken back, or could not be.
  2. **Courses** — so there are four ways in which an invocation goes (`Course`).  In each of them the log
     has what the body reports, and what may come after that is an error of the rollback.

  `course_atomically` is the only case analysis of an invocation under refusals that says what is reported:
  what operations announce and what they warn of is read off it.
-/
import ThreatLedger.Proofs.Store.Invocations

open ThreatLedger.Action

namespace ThreatLedger

open RefusingStore

/-- A store that refuses some of its calls, over a reference store. -/
abbrev RefusingReference := RefusingStore ReferenceStore

namespace RefusingStore

/-- The store in which an invocation begins that is let through. -/
def begun (s : RefusingReference) : RefusingReference :=
  { s.counted .begin with store := { s.store with saved := some s.store.entries } }

/-- Whether an invocation begins: it is not refused, and no other one is open. -/
def Begins (s : RefusingReference) : Prop :=
  s.refuses .begin (s.calls .begin) = false ∧ s.store.saved = none

end RefusingStore

variable {ε α : Type} {s : RefusingReference}

/-! ## Ends -/

/-- An invocation begins over a saved copy of the entries, and without a report.  The call counts, so
that the next refusal is looked up behind it. -/
theorem run_begin_begun (h : s.Begins) :
    (Store.begin : Action RefusingReference StoreError Unit).run s = ⟨.ok (), s.begun, []⟩ := by
  obtain ⟨⟨m, saved, space⟩, refuses, calls⟩ := s
  obtain ⟨hlet, rfl⟩ := h
  exact run_guarded_made hlet _

/-- An invocation that does not begin is refused, or finds another one open.  Neither is what a refused
commit answers with. -/
theorem run_begin_unbegun (h : ¬s.Begins) :
    ∃ e s', (Store.begin : Action RefusingReference StoreError Unit).run s = ⟨.error e, s', []⟩ ∧
      e ≠ .refused .commit ∧ s'.refuses = s.refuses := by
  cases hrefused : s.refuses .begin (s.calls .begin) with
  | true => exact ⟨_, _, run_guarded_refused hrefused _, by decide, rfl⟩
  | false =>
    obtain ⟨⟨m, saved, space⟩, refuses, calls⟩ := s
    cases saved with
    | none => exact absurd ⟨hrefused, rfl⟩ h
    | some old => exact ⟨_, _, run_guarded_made hrefused _, by decide, rfl⟩

/-- A body that is made of calls leaves its invocation open, whatever comes of it, and refusals stay
scheduled as they are. -/
theorem MadeOfCalls.stays_open [StoreFailure ε] {x : ∀ (σ : Type) [Store σ], Action σ ε α}
    (hx : MadeOfCalls x) {m : KeyMap Bytes} {space : Option String}
    (hs : s.store = ⟨m, some m, space⟩) :
    ∃ written, ((x RefusingReference).run s).store.store = ⟨written, some m, space⟩ ∧
      ((x RefusingReference).run s).store.refuses = s.refuses := by
  rcases hx (callsTrack_inside callsTrack_underway) s _ ⟨⟨hs, rfl⟩, hs, m, rfl⟩ with hkept | hcaught
  · obtain ⟨habove, hsame, written, hw⟩ := hkept.store
    exact ⟨written, hsame.trans hw, habove.refuses⟩
  · obtain ⟨-, habove, -, written, hw⟩ := hcaught
    exact ⟨written, hw, habove.refuses⟩

/-- Taking back what has failed answers with that failure.  Nothing is reported but that a rollback has
failed too. -/
theorem run_abandon_fail (e : ε) (s : RefusingReference) :
    ∃ s' closing,
      (abandon >>= fun _ => .fail e : Action RefusingReference ε α).run s = ⟨.error e, s', closing⟩ ∧
        (∀ event ∈ closing, event.severity = .error) ∧ s'.refuses = s.refuses := by
  have silent : ∀ t, ((Store.rollback : Action ReferenceStore StoreError Unit).run t).events = [] := by
    rintro ⟨entries, _ | old, space⟩ <;> rfl
  -- whether it is refused or let through, a rollback reports nothing itself
  have hback : ∃ r s', (Store.rollback : Action RefusingReference StoreError Unit).run s = ⟨r, s', []⟩ ∧
      s'.refuses = s.refuses := by
    cases hrefused : s.refuses .rollback (s.calls .rollback) with
    | true => exact ⟨_, _, run_guarded_refused hrefused _, rfl⟩
    | false => exact ⟨_, _, (run_guarded_made hrefused _).trans (congrArg _ (silent s.store)), rfl⟩
  obtain ⟨r, s', hback, hschedule⟩ := hback
  unfold abandon
  simp only [run_bind, run_attempt, hback]
  cases r with
  | ok _ => exact ⟨s', [], rfl, List.forall_mem_nil _, hschedule⟩
  | error e' => exact ⟨s', [.rollbackFailed e'], rfl, List.forall_mem_singleton.mpr rfl, hschedule⟩

/-! ## Courses -/

/-- How an invocation from `s` comes to its outcome `o`, where `body` is the outcome of its body: it does
not begin; it keeps what its body does; its commit is refused after its body is done; or its body fails,
and it is taken back, or could not be. -/
inductive Course [StoreFailure ε] (s : RefusingReference) (body o : Outcome RefusingReference ε α) : Prop
  | unbegun {e : StoreError} : ¬s.Begins → e ≠ .refused .commit →
    o.result = .error (StoreFailure.ofStore e) → o.events = [] → Course s body o
  | kept {a : α} : s.Begins → body.result = .ok a → o.result = .ok a → o.events = body.events →
    Course s body o
  | uncommitted {a : α} : s.Begins → body.result = .ok a → (∃ n, s.refuses .commit n = true) →
    o.result = .error (StoreFailure.ofStore (.refused .commit)) → o.events = body.events →
    Course s body o
  | abandoned {e : ε} {closing : List Event} : s.Begins → body.result = .error e →
    o.result = .error e → o.events = body.events ++ closing →
    (∀ event ∈ closing, event.severity = .error) → Course s body o

section

variable [StoreFailure ε] {x : ∀ (σ : Type) [Store σ], Action σ ε α} (hx : MadeOfCalls x)
include hx

/-- An invocation that begins ends with its commit, or with its rollback.  Which of them depends on its
body alone, and whether it is let through on the schedule. -/
theorem course_begun (h : s.Begins) :
    Course s ((x RefusingReference).run s.begun) ((atomically (x RefusingReference)).run s) ∧
      ((atomically (x RefusingReference)).run s).store.refuses = s.refuses := by
  have hbegin := run_begin_begun h
  obtain ⟨written, hopen, hschedule⟩ := hx.stays_open (s := s.begun) rfl
  rcases hbody : (x RefusingReference).run s.begun with ⟨e | a, s₂, events⟩
  · obtain ⟨s₃, closing, hback, hclosing, hsame⟩ := run_abandon_fail (α := α) e s₂
    rw [atomically_run_abandoned hbegin hbody, hback]
    rw [hbody] at hschedule
    exact ⟨.abandoned h rfl rfl rfl hclosing, hsame.trans hschedule⟩
  · rw [hbody] at hopen hschedule
    replace hschedule : s₂.refuses = s.refuses := hschedule
    cases hcommit : s₂.refuses .commit (s₂.calls .commit) with
    | true =>
      -- what the body has written stays to be seen, and its reports stand
      have hrefused := run_guarded_refused hcommit (Store.commit : Action ReferenceStore StoreError Unit)
      rw [atomically_run_uncommitted hbegin hbody hrefused]
      exact ⟨.uncommitted h rfl ⟨_, hschedule ▸ hcommit⟩ rfl rfl, hschedule⟩
    | false =>
      rw [atomically_run_ok hbegin hbody (run_commit hcommit hopen)]
      exact ⟨.kept h rfl rfl rfl, hschedule⟩

/-- **Courses.**  Every invocation of a body that is made of calls goes in one of these ways, and leaves
the schedule of refusals as it is. -/
theorem course_atomically (s : RefusingReference) :
    Course s ((x RefusingReference).run s.begun) ((atomically (x RefusingReference)).run s) ∧
      ((atomically (x RefusingReference)).run s).store.refuses = s.refuses := by
  by_cases h : s.Begins
  · exact course_begun hx h
  · obtain ⟨e, s', hbegin, hne, hschedule⟩ := run_begin_unbegun h
    rw [atomically_run_unbegun hbegin]
    exact ⟨.unbegun h hne rfl rfl, hschedule⟩

end

end ThreatLedger
