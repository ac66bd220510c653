/-
  What the operations report, by accounts.

  1. **Tasks** — the operations that may write, and what each of them has to announce (`Task.Announces`).
  2. **Invocations** — an invocation has what its body tells as soon as that is done, be its commit refused
     (`reports_atomically`).
  3. **Operations** — every command, and every creation of an object, reports to each account what it has to
     announce if it comes to its commit, and what is due for its error if it does not.
-/
import ThreatLedger.Proofs.Ledger.Accounts
import ThreatLedger.Proofs.Ledger.RequiredFields
import ThreatLedger.Proofs.Stix.Catalog

open ThreatLedger.Action

namespace ThreatLedger

open RefusingStore

variable {σ α β : Type}

/-! ## Tasks -/

/-- An operation that may write: one of the ledger, or the creation of an object. -/
inductive Task
  | ledger (session : Session) (command : Ledger.Command)
  | object (kind : Stix.Kind) (text : String)

/-- Carries a task out. -/
def Task.run [Store σ] : Task → Action σ LedgerError Unit
  | .ledger session command => (fun _ => ()) <$> command.run session
  | .object kind text => (fun _ => ()) <$> Stix.Catalog.create kind text

open Ledger in
/-- What a task has to announce: a write, by its UUID and the role of the caller or by its kind and id, and
a read nothing. -/
inductive Task.Announces : Task → List Event → Prop
  | init {session role} : callerRole session = .ok role →
    Announces (.ledger session .init) [.initialized role]
  | create {session record role} : callerRole session = .ok role →
    Announces (.ledger session (.create record)) [.created record.uuid role]
  | createText {session text record role} : callerRole session = .ok role →
    parseRecord text = .ok record →
    Announces (.ledger session (.createText text)) [.created record.uuid role]
  | read {session uuid} : Announces (.ledger session (.read uuid)) []
  | update {session record role} : callerRole session = .ok role →
    Announces (.ledger session (.update record)) [.updated record.uuid role]
  | updateText {session text record role} : callerRole session = .ok role →
    parseRecord text = .ok record →
    Announces (.ledger session (.updateText text)) [.updated record.uuid role]
  | delete {session uuid role} : callerRole session = .ok role →
    Announces (.ledger session (.delete uuid)) [.deleted uuid role]
  | list {session size bookmark} : Announces (.ledger session (.list size bookmark)) []
  | object {kind text o} : Stix.Catalog.admissible kind text = .ok o →
    Announces (.object kind text) [.objectStored kind o.id]

/-- What is announced is announced as such, and not as a warning or a detail: accounts of warnings can
leave it aside. -/
theorem Task.Announces.severity {task : Task} {events : List Event} (h : task.Announces events) :
    ∀ event ∈ events, event.severity = .info := by
  cases h with
  | read | list => exact List.forall_mem_nil _
  | _ => exact List.forall_mem_singleton.mpr rfl

/-! ## Invocations -/

/-- Whether an operation comes to its commit: it succeeds, or fails because that is refused. -/
def Outcome.CameToCommit (o : Outcome σ LedgerError α) : Prop :=
  (∃ a, o.result = .ok a) ∨ o.result = .error uncommitted

/-- The outcome of an operation under a schedule, with entries of which `L` holds if it came to its commit,
and with what is due if it failed before.  Its commit is only refused by a schedule that refuses commits. -/
structure Outcome.Reports (a : Account) (L : List Event → Prop) (refuses : Schedule)
    (o : Outcome (RefusingStore σ) LedgerError α) : Prop where
  came : o.CameToCommit → L (a.entries o.events)
  failed : ∀ e, o.result = .error e → e ≠ uncommitted → a.entries o.events = a.due e
  refused : o.result = .error uncommitted → ∃ n, refuses .commit n = true
  schedule : o.store.refuses = refuses

section

variable {a : Account} {L : List Event → Prop} {refuses : Schedule}
  {o : Outcome (RefusingStore σ) LedgerError α}

/-- An operation that failed before its commit has what is due for its error.  Its error is not that of
a refused commit, which is how the two can be told apart. -/
theorem reports_of_failed {e : LedgerError} (hresult : o.result = .error e) (he : e ≠ uncommitted)
    (hentries : a.entries o.events = a.due e) (hschedule : o.store.refuses = refuses) :
    o.Reports a L refuses := by
  -- an operation that came to its commit succeeds or has the error of a refused one
  have hne : o.result ≠ .error uncommitted := by
    rw [hresult]
    rintro ⟨⟩
    exact he rfl
  refine ⟨?_, fun e' he' _ => ?_, fun h => absurd h hne, hschedule⟩
  · rintro (⟨b, hb⟩ | h)
    · cases hresult.symm.trans hb
    · exact absurd h hne
  · obtain rfl := Except.error.inj (hresult.symm.trans he')
    exact hentries

theorem reports_of_ok {b : α} (hresult : o.result = .ok b) (hL : L (a.entries o.events))
    (hschedule : o.store.refuses = refuses) : o.Reports a L refuses := by
  refine ⟨fun _ => hL, fun e he _ => ?_, fun h => ?_, hschedule⟩
  · cases hresult.symm.trans he
  · cases hresult.symm.trans h

/-- An operation whose commit was refused came to it, under a schedule that refuses one. -/
theorem reports_of_refused (hresult : o.result = .error uncommitted) (hL : L (a.entries o.events))
    (hrefused : ∃ n, refuses .commit n = true) (hschedule : o.store.refuses = refuses) :
    o.Reports a L refuses := by
  refine ⟨fun _ => hL, fun e he hne => ?_, fun _ => hrefused, hschedule⟩
  exact absurd (Except.error.inj (hresult.symm.trans he)).symm hne

/-- Of an account without what the operation reports by itself, exactly what the result owes is found. -/
theorem Outcome.Reports.owed (h : o.Reports a Nothing refuses) : a.entries o.events = a.owed o.result := by
  cases hr : o.result with
  | ok b => exact h.came (.inl ⟨b, hr⟩)
  | error e =>
    by_cases he : e = uncommitted
    · subst he
      exact (h.came (.inr hr)).trans (a.calm _ rfl).symm
    · exact h.failed e hr he

end

section

variable {a : Account} {L : List Event → Prop}

/-- **Invocations** have what their bodies tell as soon as those are done: before the commit, and so also if
that is refused. -/
theorem reports_atomically {x : ∀ (σ : Type) [Store σ], Action σ LedgerError α} (hx : MadeOfCalls x)
    (htells : Tells a L (x RefusingReference)) (s : RefusingReference) :
    ((atomically (x RefusingReference)).run s).Reports a L s.refuses := by
  obtain ⟨hcourse, hschedule⟩ := course_atomically hx s
  obtain ⟨hdone, hfailed⟩ := htells s.begun
  -- in two courses the body is done and has told what is to be told; in the others an error is what
  -- counts
  cases hcourse with
  | unbegun _ hne hresult hevents =>
    refine reports_of_failed hresult ?_ ?_ hschedule
    · rintro ⟨⟩
      exact hne rfl
    · rw [hevents]
      exact (a.calm _ rfl).symm
  | kept _ hbody hresult hevents =>
    exact reports_of_ok hresult (hevents ▸ hdone _ hbody) hschedule
  | uncommitted _ hbody hrefused hresult hevents =>
    exact reports_of_refused hresult (hevents ▸ hdone _ hbody) hrefused hschedule
  | abandoned _ hbody hresult hevents hclosing =>
    obtain ⟨hentries, hne⟩ := hfailed _ hbody
    refine reports_of_failed hresult hne ?_ hschedule
    -- a rollback that fails is reported as an error, and no account counts those
    have hnone := a.entries_eq_nil fun event hevent => a.uncounted_of_error (hclosing event hevent)
    rw [hevents, a.entries_append, hnone, List.append_nil]
    exact hentries

/-- Of what is counted, an invocation that begins reports what its body does, as neither beginning nor
ending one is reported. -/
theorem entries_begun (a : Account) {x : ∀ (σ : Type) [Store σ], Action σ LedgerError α}
    (hx : MadeOfCalls x) {s : RefusingReference} (h : s.Begins) :
    a.entries ((atomically (x RefusingReference)).run s).events
      = a.entries ((x RefusingReference).run s.begun).events := by
  cases (course_atomically hx s).1 with
  | unbegun hnot => exact absurd h hnot
  | kept _ _ _ hevents => rw [hevents]
  | uncommitted _ _ _ _ hevents => rw [hevents]
  | abandoned _ _ _ hevents hclosing =>
    have hnone := a.entries_eq_nil fun event hevent => a.uncounted_of_error (hclosing event hevent)
    rw [hevents, a.entries_append, hnone, List.append_nil]

/-- An invocation that does not begin reports nothing at all, since its body is not run. -/
theorem events_unbegun {x : ∀ (σ : Type) [Store σ], Action σ LedgerError α} (hx : MadeOfCalls x)
    {s : RefusingReference} (h : ¬s.Begins) :
    ((atomically (x RefusingReference)).run s).events = [] := by
  cases (course_atomically hx s).1 with
  | unbegun _ _ _ hevents => exact hevents
  | kept hbegins => exact absurd hbegins h
  | uncommitted hbegins => exact absurd hbegins h
  | abandoned hbegins => exact absurd hbegins h

/-! ## Operations -/

/-- To map an answer changes neither whether the operation came to its commit nor what it reports. -/
theorem reports_map {x : Action RefusingReference LedgerError α} {s : RefusingReference} (f : α → β)
    (hx : (x.run s).Reports a L s.refuses) : ((f <$> x).run s).Reports a L s.refuses := by
  obtain ⟨hcame, hfailed, hrefused, hschedule⟩ := hx
  rw [run_map]
  refine ⟨fun h => hcame ?_, fun e he => ?_, fun h => ?_, hschedule⟩
  · rcases h with ⟨b, hb⟩ | h
    · obtain ⟨b', hb', -⟩ := map_eq_ok.mp hb
      exact .inl ⟨b', hb'⟩
    · exact .inr (map_eq_error.mp h)
  · exact hfailed e (map_eq_error.mp he)
  · exact hrefused (map_eq_error.mp h)

/-- What is decided before an operation leaves no entry, and with its errors none is due.  So the
operation itself is all there is to look at. -/
theorem reports_ofExcept_bind {r : Except LedgerError α} {s : RefusingReference}
    {f : α → Action RefusingReference LedgerError β} (hr : ∀ e, r = .error e → e.Plain)
    (hf : ∀ b, r = .ok b → ((f b).run s).Reports a L s.refuses) :
    ((.ofExcept r >>= f : Action RefusingReference LedgerError β).run s).Reports a L s.refuses := by
  cases r with
  | error e =>
    obtain ⟨hundenied, hne⟩ := hr e rfl
    exact reports_of_failed rfl hne (a.calm e hundenied).symm rfl
  | ok b => exact hf b rfl

/-- **Commands** report what they have to announce, to every account that does not count what they
rewrite. -/
theorem Ledger.reports_run (session : Session) (command : Command)
    (hrewrites : ∀ record role, command.replacement? = some record →
      a.counts (.visibilityRewritten record role) = false)
    (hL : ∀ events, (Task.ledger session command).Announces events → L (a.entries events))
    (s : RefusingReference) : ((command.run session).run s).Reports a L s.refuses := by
  have new : ∀ record,
      (∀ role, callerRole session = .ok role → L (a.entries [.created record.uuid role])) →
      ((create session record).run s).Reports a L s.refuses := fun record hcreated =>
    reports_ofExcept_bind (fun _ he => plain_of_validate he) fun _ _ =>
      reports_atomically (storeNew_calls session record) (tells_storeNew hcreated) s
  have replaced : ∀ record, command.replacement? = some record →
      (∀ role, callerRole session = .ok role → L (a.entries [.updated record.uuid role])) →
      ((update session record).run s).Reports a L s.refuses := fun record hrecord hupdated =>
    reports_atomically (replace_calls session record)
      (tells_replace (fun role => hrewrites record role hrecord) hupdated) s
  -- each operation is an invocation of a body that has been walked through in the accounts
  cases command with
  | init =>
    have told := tells_writeSeeds (a := a) fun _ hrole => hL _ (.init hrole)
    exact reports_map _ (reports_atomically (writeSeeds_calls session) told s)
  | create record => exact reports_map _ (new record fun _ hrole => hL _ (.create hrole))
  | createText text =>
    refine reports_map _ (reports_ofExcept_bind plain_of_parseRecord fun record hparse => ?_)
    exact new record fun _ hrole => hL _ (.createText hrole hparse)
  | read uuid =>
    have told := (tells_fetch (a := a) session uuid).imp (hL _ .read)
    exact reports_map _ (reports_atomically (MadeOfReads.calls (fetch_reads session uuid)) told s)
  | update record => exact reports_map _ (replaced record rfl fun _ hrole => hL _ (.update hrole))
  | updateText text =>
    refine reports_map _ (reports_ofExcept_bind plain_of_parseRecord fun record hparse => ?_)
    have hrecord : (Command.updateText text).replacement? = some record :=
      congrArg Except.toOption (mapError_eq_ok.mp hparse)
    exact replaced record hrecord fun _ hrole => hL _ (.updateText hrole hparse)
  | delete uuid =>
    have told := tells_remove (a := a) fun _ hrole => hL _ (.delete hrole)
    exact reports_map _ (reports_atomically (remove_calls session uuid) told s)
  | list size bookmark =>
    have told := (tells_browse (a := a) session size bookmark).imp (hL _ .list)
    exact reports_map _ <|
      reports_atomically (MadeOfReads.calls (browse_reads session size bookmark)) told s

/-- **Creations of objects** report what they have to announce, to every account.  No object is denied
to anybody, and none is rewritten. -/
theorem Stix.Catalog.reports_create (kind : Kind) (text : String)
    (hL : ∀ events, (Task.object kind text).Announces events → L (a.entries events))
    (s : RefusingReference) : ((create kind text).run s).Reports a L s.refuses := by
  refine reports_ofExcept_bind (fun _ he => plain_of_admissible he) fun o ho => ?_
  refine reports_map (fun _ => o) ?_
  exact reports_atomically (storeNew_calls kind o) (tells_storeNew (hL _ (.object ho))) s

end

end ThreatLedger
