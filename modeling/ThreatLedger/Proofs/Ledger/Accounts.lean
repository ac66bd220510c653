/-
  What the bodies of operations report, by accounts.

  1. **Errors** — an error answers a denial, or is that of a refused commit, or is plain: neither of them.
  2. **Accounts** — an account counts some of the events, and says which of them an error has to come with.
     An action tells `L` if `L` holds of what is counted when it succeeds, and if it comes with what is due
     when it fails (`Tells`).  There is one lemma for each way of building an action.
  3. **Bodies** — calls of a store tell nothing, whether or not they are refused, and a denial is counted
     where a request is judged.  So a body tells what it reports when it is done.

  The walk over the bodies is made once, for all accounts: the announcements, the denials and the rewritings.
-/
import ThreatLedger.Ledger.Command
import ThreatLedger.Proofs.Store.Courses
import ThreatLedger.Stix.Catalog

open ThreatLedger.Action

namespace ThreatLedger

open RefusingStore

variable {σ α β : Type}

/-! ## Errors -/

/-- The denial that an error answers, of the role that the error names. -/
def LedgerError.denial? : LedgerError → Option Denial
  | .unauthorized denial => some denial
  | .forbidden role operation uuid => some ⟨role, operation, some uuid⟩
  | _ => none

/-- The error of an operation whose commit is refused. -/
abbrev uncommitted : LedgerError := .store (.refused .commit)

/-- An error that answers no denial and is not that of a refused commit. -/
structure LedgerError.Plain (e : LedgerError) : Prop where
  undenied : e.denial? = none
  committed : e ≠ uncommitted

/-- What fails with plain errors does so whatever they were before they were changed. -/
theorem plain_of_mapError {ε : Type} {r : Except ε α} {f : ε → LedgerError} (hf : ∀ e, (f e).Plain) :
    ∀ e, r.mapError f = .error e → e.Plain := by
  intro e he
  cases r with
  | ok b => cases he
  | error cause =>
    obtain rfl := Except.error.inj he
    exact hf cause

namespace Ledger

/-- A caller without a role is not denied anything: nothing has been judged yet. -/
theorem plain_of_callerRole {session : Session} {e : LedgerError} (h : callerRole session = .error e) :
    e.Plain := by
  unfold callerRole at h
  split at h
  · split at h
    · obtain rfl := Except.error.inj h
      exact ⟨rfl, nofun⟩
    · obtain rfl := Except.error.inj h
      exact ⟨rfl, nofun⟩
    · cases h
  · cases h

/-- An incomplete record is refused without a judgement, and before anything is stored. -/
theorem plain_of_validate {record : Record} {e : LedgerError} (h : validate record = .error e) :
    e.Plain := by
  unfold validate at h
  split at h
  · cases h
  · obtain rfl := Except.error.inj h
    exact ⟨rfl, nofun⟩

/-- A text that is no record is refused before anything is judged or stored. -/
theorem plain_of_parseRecord {text : String} : ∀ e, parseRecord text = .error e → e.Plain :=
  plain_of_mapError fun _ => ⟨rfl, nofun⟩

theorem refusal_ne_uncommitted (denial : Denial) (request : Request) :
    refusal denial request ≠ uncommitted := by
  cases request <;> nofun

/-- A denial says who asked for what, and nothing else: the role, the operation, and the UUID of its
target.  So it can be told from the request alone. -/
theorem denial_eq {mode : Mode} {role : Role} {request : Request} {denial : Denial}
    (h : mode.check role request = .deny denial) :
    denial = ⟨role, request.operation, request.target⟩ := by
  cases mode with
  | openAccess => cases h
  | rbac =>
    unfold Mode.check at h
    simp only at h
    split at h <;> cases h
    rfl

end Ledger

/-- A text that is no object of its kind is refused before anything is stored; nobody is denied an
object. -/
theorem Stix.Catalog.plain_of_admissible {kind : Kind} {text : String} {e : LedgerError}
    (h : admissible kind text = .error e) : e.Plain := by
  unfold admissible at h
  split at h
  · obtain rfl := Except.error.inj h
    exact ⟨rfl, nofun⟩
  · split at h
    · obtain rfl := Except.error.inj h
      exact ⟨rfl, nofun⟩
    · cases h

/-! ## Accounts -/

/-- Which events are counted, and which of them an error has to come with. -/
structure Account where
  counts : Event → Bool
  due : LedgerError → List Event
  /-- What is reported of pages, of scans and of failed rollbacks is not counted. -/
  grave : ∀ event, counts event = true → event.severity = .warn ∨ event.severity = .info
  /-- Nothing is due but for refused requests. -/
  calm : ∀ e, e.denial? = none → due e = []
  /-- What is due for a refused request is reported where it is judged. -/
  judged : ∀ role (request : Request),
    let denial : Denial := ⟨role, request.operation, request.target⟩
    [Event.denied denial].filter counts = due (Ledger.refusal denial request)

namespace Account

/-- The account of events that no error has to come with; denials are not among them. -/
def withoutDues (counts : Event → Bool)
    (grave : ∀ event, counts event = true → event.severity = .warn ∨ event.severity = .info)
    (undenied : ∀ denial, counts (.denied denial) = false) : Account where
  counts
  due _ := []
  grave
  calm _ _ := rfl
  judged _ _ := List.filter_cons_of_neg (Bool.eq_false_iff.mp (undenied _))

variable (a : Account)

/-- The events that are counted. -/
def entries (events : List Event) : List Event := events.filter a.counts

/-- What a result has to come with. -/
def owed : Except LedgerError α → List Event
  | .ok _ => []
  | .error e => a.due e

theorem entries_append (earlier later : List Event) :
    a.entries (earlier ++ later) = a.entries earlier ++ a.entries later := List.filter_append ..

theorem entries_eq_nil {events : List Event} (h : ∀ event ∈ events, a.counts event = false) :
    a.entries events = [] := by
  refine List.filter_eq_nil_iff.mpr fun event hevent => ?_
  rw [h event hevent]
  exact Bool.false_ne_true

theorem uncounted {event : Event} (hwarn : event.severity ≠ .warn) (hinfo : event.severity ≠ .info) :
    a.counts event = false := by
  refine Bool.eq_false_iff.mpr fun hcounts => ?_
  rcases a.grave event hcounts with hgrave | hgrave
  · exact hwarn hgrave
  · exact hinfo hgrave

/-- Details are counted by no account. -/
theorem uncounted_of_debug {event : Event} (h : event.severity = .debug) : a.counts event = false :=
  a.uncounted (h ▸ by decide) (h ▸ by decide)

/-- Neither are the reports of rollbacks that failed. -/
theorem uncounted_of_error {event : Event} (h : event.severity = .error) : a.counts event = false :=
  a.uncounted (h ▸ by decide) (h ▸ by decide)

end Account

/-- No entry. -/
abbrev Nothing (entries : List Event) : Prop := entries = []

/-- An outcome with entries of which `L` holds if it is a success, and with what is due if it is a failure,
which is not that of a commit. -/
structure Outcome.Tells (a : Account) (L : List Event → Prop) (o : Outcome σ LedgerError α) : Prop where
  done : ∀ b, o.result = .ok b → L (a.entries o.events)
  failed : ∀ e, o.result = .error e → a.entries o.events = a.due e ∧ e ≠ uncommitted

/-- An action all of whose outcomes tell `L`. -/
def Tells (a : Account) (L : List Event → Prop) (x : Action σ LedgerError α) : Prop :=
  ∀ s, (x.run s).Tells a L

section

variable {a : Account} {L : List Event → Prop}

/-- Who has nothing to tell tells everything that holds of no entries.  Walks that end without an event
of the account are put to use in those that expect one through this. -/
theorem Tells.imp {x : Action σ LedgerError α} (hx : Tells a Nothing x) (hL : L []) : Tells a L x := by
  intro s
  obtain ⟨hdone, hfailed⟩ := hx s
  refine ⟨fun b hb => ?_, hfailed⟩
  rw [hdone b hb]
  exact hL

theorem tells_of_ok {o : Outcome σ LedgerError α} {b : α} (h : o.result = .ok b)
    (hL : L (a.entries o.events)) : o.Tells a L := by
  refine ⟨fun _ _ => hL, fun e he => ?_⟩
  cases h.symm.trans he

theorem tells_pure (b : α) : Tells a Nothing (pure b : Action σ LedgerError α) :=
  fun _ => tells_of_ok rfl rfl

/-- With a plain error nothing is due. -/
theorem tells_fail {e : LedgerError} (he : e.Plain) : Tells a L (.fail e : Action σ LedgerError α) := by
  intro s
  refine ⟨nofun, fun e' he' => ?_⟩
  obtain rfl := Except.error.inj he'
  exact ⟨(a.calm _ he.undenied).symm, he.committed⟩

theorem tells_report {event : Event} (hL : L (a.entries [event])) :
    Tells a L (.report event : Action σ LedgerError Unit) :=
  fun _ => tells_of_ok rfl hL

/-- What is reported of records that are hidden or listed is in no account. -/
theorem tells_report_aside {event : Event} (h : event.severity = .debug) :
    Tells a Nothing (.report event : Action σ LedgerError Unit) :=
  tells_report (a.entries_eq_nil (List.forall_mem_singleton.mpr (a.uncounted_of_debug h)))

/-- **Sequence.**  What comes after an action that tells nothing tells what both of them do: an error ends
them with what is due for it, and a success has left no entry before the second one. -/
theorem tells_bind {x : Action σ LedgerError α} {f : α → Action σ LedgerError β}
    (hx : Tells a Nothing x) (hf : ∀ b, Tells a L (f b)) : Tells a L (x >>= f) := by
  intro s
  obtain ⟨hdone, hfailed⟩ := hx s
  rw [bind_run]
  cases hr : (x.run s).result with
  -- nothing follows, and what is due for the error has been told
  | error e =>
    refine ⟨nofun, fun e' he' => ?_⟩
    obtain rfl := Except.error.inj he'
    exact hfailed _ hr
  | ok b =>
    obtain ⟨hnext, hends⟩ := hf b (x.run s).store
    -- the first action has left no entry, so what is counted is what the second one tells
    have hentries : a.entries ((x.run s).events ++ ((f b).run (x.run s).store).events)
        = a.entries ((f b).run (x.run s).store).events := by
      rw [a.entries_append, hdone b hr, List.nil_append]
    refine ⟨fun c hc => ?_, fun e he => ?_⟩
    · show L (a.entries (_ ++ _))
      rw [hentries]
      exact hnext c hc
    · show a.entries (_ ++ _) = _ ∧ _
      rw [hentries]
      exact hends e he

/-- Only the value that is decided on is handed on.  The errors of the decision must be plain, since
nothing has been reported by then that could be due for them. -/
theorem tells_ofExcept_bind {r : Except LedgerError α} {f : α → Action σ LedgerError β}
    (hr : ∀ e, r = .error e → e.Plain) (hf : ∀ b, r = .ok b → Tells a L (f b)) :
    Tells a L (.ofExcept r >>= f) := by
  cases r with
  | error e => exact tells_fail (hr e rfl)
  | ok b => exact hf b rfl

theorem tells_ofExcept {r : Except LedgerError α} (hr : ∀ e, r = .error e → e.Plain) :
    Tells a Nothing (.ofExcept r : Action σ LedgerError α) := by
  cases r with
  | error e => exact tells_fail (hr e rfl)
  | ok b => exact tells_pure b

/-! ## Bodies -/

/-- **Calls** leave no entry and are due none, whether or not they are refused.  They are no commits, and
fail with no other refusal than their own. -/
theorem tells_guarded {call : StoreCall} (hcall : call ≠ .commit) {x : Action ReferenceStore StoreError α}
    (hquiet : ∀ t, ∀ event ∈ (x.run t).events, event.severity = .debug)
    (hresult : ∀ t, (x.run t).result ≠ .error (.refused .commit)) :
    Tells a Nothing ((guarded call x).lift : Action RefusingReference LedgerError α) := by
  intro s
  rw [run_lift]
  cases hc : s.refuses call (s.calls call) with
  -- a refusal is a plain error, and it is not the one of a commit
  | true =>
    rw [run_guarded_refused hc]
    refine ⟨nofun, fun e he => ?_⟩
    obtain rfl := Except.error.inj he
    refine ⟨(a.calm _ rfl).symm, ?_⟩
    rintro ⟨⟩
    exact hcall rfl
  | false =>
    rw [run_guarded_made hc]
    -- what the call reports by itself are details, and no account counts those
    have hnone : a.entries (x.run s.store).events = [] :=
      a.entries_eq_nil fun event hevent => a.uncounted_of_debug (hquiet s.store event hevent)
    refine ⟨fun _ _ => hnone, fun e he => ?_⟩
    cases hr : (x.run s.store).result with
    | ok b =>
      rw [hr] at he
      cases he
    | error cause =>
      rw [hr] at he
      obtain rfl := Except.error.inj he
      refine ⟨hnone.trans (a.calm _ rfl).symm, ?_⟩
      rintro ⟨⟩
      exact hresult s.store hr

theorem tells_get (key : String) :
    Tells a Nothing ((Store.get key).lift : Action RefusingReference LedgerError _) :=
  tells_guarded (by decide) (fun _ => List.forall_mem_nil _) fun _ => nofun

theorem tells_put (key : String) (value : Bytes) :
    Tells a Nothing ((Store.put key value).lift : Action RefusingReference LedgerError _) :=
  tells_guarded (by decide) (fun _ => List.forall_mem_nil _) fun _ => nofun

theorem tells_delete (key : String) :
    Tells a Nothing ((Store.delete key).lift : Action RefusingReference LedgerError _) :=
  tells_guarded (by decide) (fun _ => List.forall_mem_nil _) fun _ => nofun

theorem tells_entry (e : Entry) :
    Tells a Nothing ((Store.entry e).lift : Action RefusingReference LedgerError _) :=
  tells_guarded (by decide) (fun _ => List.forall_mem_nil _) fun _ => nofun

/-- The report of a scan is a detail, and is in no account. -/
theorem tells_scan (scan : Scan) :
    Tells a Nothing ((Store.scan scan).lift : Action RefusingReference LedgerError _) := by
  cases hlimit : scan.limit with
  | error e =>
    have hrun : ∀ t : ReferenceStore, (Store.scan scan).run t = ⟨.error e, t, []⟩ := fun t => by
      simp only [Store.scan, Action.run, hlimit]
    have he : e = .invalidPageSize scan.size := by
      unfold Scan.limit at hlimit
      split at hlimit
      · exact (Except.error.inj hlimit).symm
      · cases hlimit
    refine tells_guarded (by decide) (fun t => ?_) fun t => ?_
    · rw [hrun]
      exact List.forall_mem_nil _
    · rw [hrun, he]
      nofun
  | ok limit =>
    refine tells_guarded (by decide) (fun t => ?_) fun t => ?_
    · rw [ReferenceStore.run_scan_ok hlimit]
      unfold ReferenceStore.scanReport
      split
      · exact List.forall_mem_nil _
      · split
        · exact List.forall_mem_nil _
        · exact List.forall_mem_singleton.mpr rfl
    · rw [ReferenceStore.run_scan_ok hlimit]
      nofun

end

namespace Ledger

section

variable {a : Account} {L : List Event → Prop} {session : Session}

/-- **Judgements** are where denials are reported, each with the error that answers it. -/
theorem tells_authorize (mode : Mode) (role : Role) (request : Request) :
    Tells a Nothing (authorize mode role request : Action σ LedgerError Unit) := by
  unfold authorize
  cases hcheck : mode.check role request with
  | allow => exact tells_pure ()
  | deny denial =>
    rw [denial_eq hcheck]
    intro s
    refine ⟨nofun, fun e he => ?_⟩
    obtain rfl := Except.error.inj he
    exact ⟨a.judged role request, refusal_ne_uncommitted _ request⟩

/-- What follows a judgement has to tell what is to be told for the role of the caller.  If the request
is denied nothing follows, and the denial is what is due for its error. -/
theorem tells_judge_bind (request : Request) {f : Role → Action σ LedgerError α}
    (hf : ∀ role, callerRole session = .ok role → Tells a L (f role)) :
    Tells a L (judge session request >>= f) := by
  unfold judge
  rw [bind_assoc]
  refine tells_ofExcept_bind (fun _ he => plain_of_callerRole he) fun role hrole => ?_
  rw [bind_assoc]
  refine tells_bind (tells_authorize _ role request) fun _ => ?_
  rw [pure_bind]
  exact hf role hrole

/-- A judgement by itself tells nothing: with a denial comes its error, and that is what is due. -/
theorem tells_judge (session : Session) (request : Request) :
    Tells a Nothing (judge session request : Action σ LedgerError Role) := by
  rw [← bind_pure (judge session request)]
  exact tells_judge_bind request fun role _ => tells_pure role

/-- By induction on the records: storing them tells nothing, and neither does being refused one of
them. -/
theorem tells_putRecords (records : List Record) :
    Tells a Nothing (records.forM putRecord : Action RefusingReference LedgerError Unit) := by
  induction records with
  | nil => exact tells_pure ()
  | cons record records ih => exact tells_bind (tells_put _ _) fun _ => ih

theorem tells_isStored (key : String) :
    Tells a Nothing (isStored key : Action RefusingReference LedgerError Bool) :=
  tells_bind (tells_get key) fun _ => tells_pure _

theorem tells_decodeStored (key : String) (value : Bytes) :
    Tells a Nothing (.ofExcept (decodeStored key value) : Action σ LedgerError Record) :=
  tells_ofExcept (plain_of_mapError fun _ => ⟨rfl, nofun⟩)

/-- A look-up tells nothing.  Neither an absent record nor a corrupt one is a denial. -/
theorem tells_load (uuid : String) :
    Tells a Nothing (load uuid : Action RefusingReference LedgerError Record) := by
  refine tells_bind (tells_get _) fun found => ?_
  cases found with
  | none => exact tells_fail ⟨rfl, nofun⟩
  | some value => exact tells_decodeStored _ value

/-- By induction on the entries of a page: each one is taken out, read and shown, or hidden with a report
that no account counts. -/
theorem tells_sift (mode : Mode) (role : Role) (es : List Entry) :
    Tells a Nothing (sift mode role es : Action RefusingReference LedgerError _) := by
  induction es with
  | nil => exact tells_pure _
  | cons e es ih =>
    refine tells_bind (tells_entry e) fun e => ?_
    refine tells_bind (tells_decodeStored e.1 e.2) fun record => ?_
    split
    · exact tells_bind ih fun _ => tells_pure _
    · exact tells_bind (tells_report_aside rfl) fun _ => tells_bind ih fun _ => tells_pure _

/-- What is told of the seeds is told behind the last of them, so a seed that cannot be stored leaves
nothing told.  The role that it names was judged before the first of them. -/
theorem tells_writeSeeds
    (hL : ∀ role, callerRole session = .ok role → L (a.entries [.initialized role])) :
    Tells a L (writeSeeds session : Action RefusingReference LedgerError Unit) := by
  refine tells_judge_bind _ fun role hrole => ?_
  exact tells_bind (tells_putRecords _) fun _ => tells_report (hL role hrole)

/-- What is told of a new record is told when it is stored, and nothing is told of one whose key is
taken. -/
theorem tells_storeNew {record : Record}
    (hL : ∀ role, callerRole session = .ok role → L (a.entries [.created record.uuid role])) :
    Tells a L (storeNew session record : Action RefusingReference LedgerError Unit) := by
  refine tells_judge_bind _ fun role hrole => tells_bind (tells_isStored _) fun found => ?_
  cases found with
  | true => exact tells_fail ⟨rfl, nofun⟩
  | false => exact tells_bind (tells_put _ _) fun _ => tells_report (hL role hrole)

/-- A read tells nothing, whatever it finds and whoever it is for.  A record that is not to be seen is a
denial, and that is due for the error it is answered with. -/
theorem tells_fetch (session : Session) (uuid : String) :
    Tells a Nothing (fetch session uuid : Action RefusingReference LedgerError Record) :=
  tells_bind (tells_load uuid) fun _ => tells_judge_bind _ fun _ _ => tells_pure _

/-- What an update does once it is allowed: the record is put, and then the update is told of.  The
warning of a rewriting comes before this. -/
theorem tells_settle {record : Record} {role : Role} (hL : L (a.entries [.updated record.uuid role])) :
    Tells a L (do putRecord record; .report (.updated record.uuid role) :
      Action RefusingReference LedgerError Unit) :=
  tells_bind (tells_put _ _) fun _ => tells_report hL

/-- An update may warn that it rewrites visibility before it puts the record, so this is only for
accounts that do not count that warning. -/
theorem tells_replace {record : Record}
    (hrewrites : ∀ role, a.counts (.visibilityRewritten record role) = false)
    (hL : ∀ role, callerRole session = .ok role → L (a.entries [.updated record.uuid role])) :
    Tells a L (replace session record : Action RefusingReference LedgerError Unit) := by
  refine tells_bind (tells_load _) fun stored => tells_judge_bind _ fun role hrole => ?_
  have hsettle := tells_settle (hL role hrole)
  split
  · have hnone : a.entries [.visibilityRewritten record role] = [] :=
      a.entries_eq_nil (List.forall_mem_singleton.mpr (hrewrites role))
    exact tells_bind (tells_report hnone) fun _ => hsettle
  · exact hsettle

/-- What is told of a removal is told when it is done, and nothing is told of a record that is not
there. -/
theorem tells_remove {uuid : String}
    (hL : ∀ role, callerRole session = .ok role → L (a.entries [.deleted uuid role])) :
    Tells a L (remove session uuid : Action RefusingReference LedgerError Unit) := by
  refine tells_bind (tells_isStored _) fun found => ?_
  cases found with
  | true =>
    refine tells_judge_bind _ fun role hrole => ?_
    exact tells_bind (tells_delete _) fun _ => tells_report (hL role hrole)
  | false => exact tells_fail ⟨rfl, nofun⟩

/-- A page tells nothing: the records that it hides, and the summary of it, are details, which no
account counts. -/
theorem tells_browse (session : Session) (size : Int) (bookmark : String) :
    Tells a Nothing (browse session size bookmark : Action RefusingReference LedgerError Page) := by
  refine tells_judge_bind _ fun role _ => ?_
  split
  · exact tells_fail ⟨rfl, nofun⟩
  · refine tells_bind (tells_scan _) fun page => tells_bind (tells_sift _ _ _) fun found => ?_
    exact tells_bind (tells_report_aside rfl) fun _ => tells_pure _

end
end Ledger

/-- What is told of a new object is told when it is stored, and nothing is told of one whose id is
taken. -/
theorem Stix.Catalog.tells_storeNew {a : Account} {L : List Event → Prop} {kind : Kind} {o : Object}
    (hL : L (a.entries [.objectStored kind o.id])) :
    Tells a L (storeNew kind o : Action RefusingReference LedgerError Unit) := by
  refine tells_bind (tells_bind (tells_get _) fun _ => tells_pure _) fun found => ?_
  cases found with
  | true => exact tells_fail ⟨rfl, nofun⟩
  | false => exact tells_bind (tells_put _ _) fun _ => tells_report hL

end ThreatLedger
