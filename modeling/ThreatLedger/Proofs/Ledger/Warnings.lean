/-
  Which warnings the operations give.

  1. **Denials and rewritings** — the two kinds of warnings, told apart by their fields and their message.
  2. **Accounts** — a denial is due for every error that refuses a request; no error has to come with a
     rewriting.
  3. **Operations** — what an operation announces is no warning, so that it has exactly the warnings that
     its result owes, of an account that does not count what it rewrites (`owed_run`).
-/
import ThreatLedger.Proofs.Ledger.Reports

open ThreatLedger.Action

namespace ThreatLedger

/-! ## Denials and rewritings -/

/-- Whether an event is the warning of a denial: one of a role and an operation. -/
def Event.isDenial (event : Event) : Bool :=
  event.severity = .warn && event.fields.map (·.1) = ["role", "operation"]

/-- Whether an event is the warning that the visibility of a record is rewritten. -/
def Event.isRewriting (event : Event) : Bool :=
  event.severity = .warn && event.message = "update rewrites record visibility"

theorem severity_of_isDenial {event : Event} (h : event.isDenial = true) : event.severity = .warn := by
  unfold Event.isDenial at h
  exact of_decide_eq_true (Bool.and_eq_true_iff.mp h).1

theorem severity_of_isRewriting {event : Event} (h : event.isRewriting = true) :
    event.severity = .warn := by
  unfold Event.isRewriting at h
  exact of_decide_eq_true (Bool.and_eq_true_iff.mp h).1

/-- No denial is worded as a rewriting. -/
theorem isRewriting_denied (denial : Denial) : (Event.denied denial).isRewriting = false := by
  have hfirst : denial.reason.toList.head? = some 'c' := by
    unfold Denial.reason
    simp only [String.toList_append]
    rfl
  have hne : denial.reason ≠ "update rewrites record visibility" := by
    intro h
    rw [h] at hfirst
    exact absurd hfirst (by decide)
  exact decide_eq_false hne

/-! ## Accounts -/

/-- The account of denials: every error that refuses a request comes with one. -/
def denialAccount : Account where
  counts := Event.isDenial
  due e := (e.denial?.map .denied).toList
  grave _ h := .inl (severity_of_isDenial h)
  calm e h := by cases e <;> first | rfl | cases h
  judged _ request := by cases request <;> rfl

/-- The account of rewritten visibility, of which no error has to warn. -/
def rewritingAccount : Account :=
  .withoutDues Event.isRewriting (fun _ h => .inl (severity_of_isRewriting h)) isRewriting_denied

/-! ## Operations -/

/-- **Commands** have the warnings that their results owe, and no others but for what they rewrite.
What they announce is no warning, so an account of warnings does not count it. -/
theorem Ledger.owed_run {a : Account} (hwarns : ∀ event, a.counts event = true → event.severity = .warn)
    (session : Session) (command : Command)
    (hrewrites : ∀ record role, command.replacement? = some record →
      a.counts (.visibilityRewritten record role) = false)
    (s : RefusingReference) :
    a.entries ((command.run session).run s).events = a.owed ((command.run session).run s).result := by
  have hnone : ∀ events, (Task.ledger session command).Announces events → Nothing (a.entries events) := by
    intro events h
    refine a.entries_eq_nil fun event hevent => Bool.eq_false_iff.mpr fun hcounts => ?_
    cases (hwarns event hcounts).symm.trans (h.severity event hevent)
  exact (reports_run session command hrewrites hnone s).owed

end ThreatLedger
