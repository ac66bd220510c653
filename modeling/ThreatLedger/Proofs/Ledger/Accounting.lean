/-
  The log accounts for what is denied, for what is rewritten and for what is hidden.

  1. **Updates** — an update warns of rewritten visibility once it is allowed, whatever comes after that
     (`rewritings_update`).
  2. **Listings** — a listing that answers has gone through its page as it does without refusals.  What
     it reports of the page is counted by induction on the entries (`run_sift`).
  3. **Runs** — every operation of a run is accounted for (`log_accounts`).
-/
import ThreatLedger.Proofs.Ledger.CorruptEntries
import ThreatLedger.Proofs.Ledger.Warnings

open ThreatLedger.Action

namespace ThreatLedger.Ledger

open RefusingStore

variable {σ α : Type}

/-! ## Updates -/

/-- The warnings of denials. -/
def denials (events : List Event) : List Event := events.filter Event.isDenial

/-- The warnings of rewritten visibility. -/
def rewritings (events : List Event) : List Event := events.filter Event.isRewriting

/-- Whether an update warns that it rewrites the visibility of a record: it begins and looks up the
stored record, which differs in who may see it, and is allowed to replace that. -/
structure Rewriting (s : RefusingStore σ) (t : ReferenceStore) (session : Session) (record : Record)
    (role : Role) : Prop where
  begins : s.refuses .begin (s.calls .begin) = false ∧ t.saved = none
  looks : s.refuses .get (s.calls .get) = false
  allowed : ∃ value stored name, t.entries.get? (Record.keyOf record.uuid) = some value ∧
    Record.decode value = .ok stored ∧ asking session = .ok name ∧ role = .ofName name ∧
    session.mode.Allows name (.update stored) ∧
    (stored.sender ≠ record.sender ∨ stored.access ≠ record.access)

/-- Judging a request answers with the role that it is admitted for. -/
theorem result_judge (session : Session) (request : Request) (s : σ) :
    ((judge session request).run s).result = admitted session request := by
  unfold judge authorize
  cases hrole : callerRole session with
  | error e =>
    unfold admitted
    rw [hrole]
    rfl
  | ok role =>
    rw [ofExcept_ok, pure_bind]
    cases hcheck : session.mode.check role request with
    | allow =>
      rw [admitted_of_allow hrole hcheck]
      rfl
    | deny denial =>
      rw [admitted_of_deny hrole hcheck]
      rfl

theorem judge_run_ok {session : Session} {request : Request} {role : Role}
    (h : admitted session request = .ok role) (s : σ) :
    (judge session request).run s = ⟨.ok role, s, []⟩ := by
  unfold admitted at h
  unfold judge authorize
  obtain ⟨found, hfound, hcheck⟩ := bind_eq_ok.mp h
  rw [hfound, ofExcept_ok, pure_bind]
  cases hdecision : session.mode.check found request with
  | allow =>
    rw [hdecision] at hcheck
    cases hcheck
    rfl
  | deny denial =>
    rw [hdecision] at hcheck
    cases hcheck

/-- A look-up whose call is refused fails with that refusal, and reports nothing. -/
theorem load_refused {s : RefusingReference} (h : s.refuses .get (s.calls .get) = true)
    (uuid : String) :
    (load uuid).run s = ⟨.error (.store (.refused .get)), s.counted .get, []⟩ := by
  have hget : ((Store.get (Record.keyOf uuid)).lift : Action RefusingReference LedgerError _).run s
      = ⟨.error (.store (.refused .get)), s.counted .get, []⟩ :=
    run_lift_error (run_guarded_refused h _)
  unfold load
  rw [run_bind, hget]

/-- A look-up whose call is let through answers as the entries have it, and reports nothing. -/
theorem load_made {s : RefusingReference} (h : s.refuses .get (s.calls .get) = false)
    (uuid : String) :
    ∃ s', (load uuid).run s = ⟨lookUp s.store.entries uuid, s', []⟩ := by
  have hget : ((Store.get (Record.keyOf uuid)).lift : Action RefusingReference LedgerError _).run s
      = ⟨.ok (s.store.entries.get? (Record.keyOf uuid)), { s.counted .get with store := s.store }, []⟩ :=
    run_lift_ok (run_guarded_made h _)
  unfold load lookUp
  rw [run_bind, hget]
  cases s.store.entries.get? (Record.keyOf uuid) <;> exact ⟨_, rfl⟩

theorem rewritings_append (earlier later : List Event) :
    rewritings (earlier ++ later) = rewritings earlier ++ rewritings later := List.filter_append ..

/-- An action that has no entry of its own in the account of rewritings warns of none.  That account
owes nothing for any error, so this holds whether the action succeeds or not. -/
theorem rewritings_told {x : Action σ LedgerError α} (hx : Tells rewritingAccount Nothing x) (s : σ) :
    rewritings (x.run s).events = [] := by
  cases hr : (x.run s).result with
  | ok b => exact (hx s).done b hr
  | error e => exact ((hx s).failed e hr).1

/-- What is done with the stored record warns of the rewriting once the update is allowed.  The warning
stands before the record is put, so it does not depend on whether that call is refused. -/
theorem rewritings_exchange (session : Session) (record stored : Record) (s : RefusingReference) :
    rewritings ((exchange session record stored).run s).events =
      match admitted session (.update stored) with
      | .error _ => []
      | .ok role =>
        if rewritesVisibility stored record then [.visibilityRewritten record role] else [] := by
  -- the judgement warns of no rewriting, whatever it decides
  have hjudge := rewritings_told (tells_judge session (.update stored)) s
  unfold exchange
  rw [bind_run, result_judge]
  cases admitted session (.update stored) with
  | error e => exact hjudge
  | ok role =>
    have hsettle : rewritingAccount.entries [.updated record.uuid role] = [] := rfl
    have hrest := rewritings_told (tells_settle hsettle)
    show rewritings (_ ++ _) = ite _ _ _
    rw [rewritings_append, hjudge, List.nil_append]
    -- the warning comes first here, and behind it nothing is told of that account
    by_cases hv : rewritesVisibility stored record
    · simp only [hv, if_true]
      show rewritings ([.visibilityRewritten record role] ++ _) = _
      rw [rewritings_append]
      exact congrArg (_ ++ ·) (hrest _)
    · simp only [hv]
      exact hrest _

/-- Visibility is rewritten by another sender or by another access list, be that one of the same roles
in another order. -/
theorem rewritesVisibility_iff (stored record : Record) :
    rewritesVisibility stored record ↔
      stored.sender ≠ record.sender ∨ stored.access ≠ record.access := by
  unfold rewritesVisibility
  rw [Bool.or_eq_true, bne_iff_ne, bne_iff_ne]

/-- The stored record is the one that is looked up, and the role the one that is admitted. -/
theorem rewriting_iff {s : RefusingReference} {session : Session} {record : Record} {role : Role} :
    Rewriting s s.store session record role ↔ s.Begins ∧ s.refuses .get (s.calls .get) = false ∧
      ∃ stored, lookUp s.store.entries record.uuid = .ok stored ∧
        admitted session (.update stored) = .ok role ∧ rewritesVisibility stored record := by
  constructor
  · -- from the table and the stored bytes to the checks that are run
    rintro ⟨hbegins, hlooks, value, stored, name, hvalue, hdecode, hname, hrole, hallowed, hdiffers⟩
    refine ⟨hbegins, hlooks, stored, ?_, admitted_eq_ok.mpr ⟨name, hname, hrole, hallowed⟩,
      (rewritesVisibility_iff _ _).mpr hdiffers⟩
    unfold lookUp decodeStored
    rw [hvalue]
    exact mapError_eq_ok.mpr hdecode
  · -- and back: what has been looked up was stored, and what was admitted the table allows
    rintro ⟨hbegins, hlooks, stored, hstored, hadmitted, hdiffers⟩
    obtain ⟨name, hname, hrole, hallowed⟩ := admitted_eq_ok.mp hadmitted
    unfold lookUp at hstored
    cases hvalue : s.store.entries.get? (Record.keyOf record.uuid) with
    | none =>
      rw [hvalue] at hstored
      cases hstored
    | some value =>
      rw [hvalue] at hstored
      exact ⟨hbegins, hlooks, value, stored, name, hvalue, mapError_eq_ok.mp hstored, hname, hrole,
        hallowed, (rewritesVisibility_iff _ _).mp hdiffers⟩

/-- The warning of an update whose invocation has begun, and whose look-up may be refused. -/
def rewritingDue (refused : Bool) (m : KeyMap Bytes) (session : Session) (record : Record) :
    List Event :=
  if refused then []
  else
    match lookUp m record.uuid with
    | .error _ => []
    | .ok stored =>
      match admitted session (.update stored) with
      | .error _ => []
      | .ok role =>
        if rewritesVisibility stored record then [.visibilityRewritten record role] else []

/-- **The warning of an update** depends on its look-up, on the stored record and on the caller alone:
what is refused behind that comes too late for it. -/
theorem rewritings_replace (session : Session) (record : Record) (s : RefusingReference) :
    rewritings ((replace session record).run s).events =
      rewritingDue (s.refuses .get (s.calls .get)) s.store.entries session record := by
  unfold rewritingDue
  rw [replace_eq, run_bind]
  cases hc : s.refuses .get (s.calls .get) with
  -- a look-up that is refused is the end of it
  | true =>
    rw [load_refused hc]
    rfl
  | false =>
    obtain ⟨s', hload⟩ := load_made hc record.uuid
    rw [hload]
    cases lookUp s.store.entries record.uuid with
    | error e => rfl
    | ok stored => exact rewritings_exchange session record stored s'

/-- **Updates** warn of a rewriting once if there is one, and never otherwise.  The invocation may fail
to begin, the look-up may be refused or find nothing, and the update may be denied; in each of these
cases there is no rewriting and no warning. -/
theorem rewritings_update (session : Session) (record : Record) (s : RefusingReference) :
    (∀ role, Rewriting s s.store session record role →
        rewritings ((update session record).run s).events = [.visibilityRewritten record role]) ∧
      ((∀ role, ¬Rewriting s s.store session record role) →
        rewritings ((update session record).run s).events = []) := by
  by_cases hbegins : s.Begins
  · have hupdate : rewritings ((update session record).run s).events =
        rewritingDue (s.refuses .get (s.calls .get)) s.store.entries session record :=
      (entries_begun rewritingAccount (replace_calls session record) hbegins).trans
        (rewritings_replace session record s.begun)
    rw [hupdate]
    unfold rewritingDue
    refine ⟨fun role h => ?_, fun hnone => ?_⟩
    · obtain ⟨-, hlooks, stored, hstored, hadmitted, hdiffers⟩ := rewriting_iff.mp h
      simp only [hlooks, hstored, hadmitted, hdiffers, if_true]
      rfl
    · -- each way out but the last one gives no warning, and that one is a rewriting
      cases hlooks : s.refuses .get (s.calls .get) with
      | true => rfl
      | false =>
        cases hstored : lookUp s.store.entries record.uuid with
        | error e => rfl
        | ok stored =>
          rw [if_neg Bool.false_ne_true]
          dsimp only
          cases hadmitted : admitted session (.update stored) with
          | error e => rfl
          | ok role =>
            refine if_neg fun hdiffers => hnone role ?_
            exact rewriting_iff.mpr ⟨hbegins, hlooks, stored, hstored, hadmitted, hdiffers⟩
  · have hnone : ((update session record).run s).events = [] :=
      events_unbegun (replace_calls session record) hbegins
    rw [hnone]
    exact ⟨fun role h => absurd (rewriting_iff.mp h).1 hbegins, fun _ => rfl⟩

/-! ## Listings -/

/-- What a listing that answers with a page reports: each record of its entries that the answer does not
have, in the order of their keys, and then how many were shown and hidden.  A store may report the scan
before. -/
def Reported (t : ReferenceStore) (session : Session) (size : Int) (bookmark : String) (page : Page)
    (events : List Event) : Prop :=
  let entries := (t.entries.onward bookmark).take size.toNat
  ∃ (name : String) (records : List Record), asking session = .ok name ∧
    entries.map (fun e => Record.decode e.2) = records.map .ok ∧
    let hidden := records.filter (· ∉ page.records)
    events = ReferenceStore.scanReport t.space (.all size bookmark) entries.length ++
        (hidden.map fun record => .hidden record.uuid (.ofName name)) ++
        [.listed (.ofName name) page.records.length hidden.length (page.bookmark ≠ "")] ∧
      page.records.length + hidden.length = entries.length

/-- **Sifting** reports the records that it leaves out, one after the other.  By induction on the
entries: each is taken out as it is, and decodes to its record. -/
theorem run_sift (mode : Mode) (role : Role) {es : List Entry} {records : List Record}
    (h : es.map (fun e => Record.decode e.2) = records.map .ok) (t : ReferenceStore) :
    (sift mode role es).run t = ⟨.ok (sifted mode role records), t,
      (records.filter fun r => !mode.canRead role r).map fun r => .hidden r.uuid role⟩ := by
  induction es generalizing records with
  | nil =>
    cases records with
    | nil => rfl
    | cons => cases h
  | cons e es ih =>
    cases records with
    | nil => cases h
    | cons record records =>
      obtain ⟨hrecord, hrecords⟩ := List.cons.inj h
      have hdecode : decodeStored e.1 e.2 = .ok record := mapError_eq_ok.mpr hrecord
      have hentry : ((Store.entry e).lift : Action ReferenceStore LedgerError Entry).run t
          = ⟨.ok e, t, []⟩ := rfl
      unfold sift
      rw [run_bind, hentry]
      simp only [hdecode, ofExcept_ok, pure_bind]
      by_cases hr : mode.canRead role record
      · -- shown, and not reported
        simp only [hr, if_true]
        rw [run_bind, ih hrecords, sifted_shown hr, List.filter_cons_of_neg (by simp [hr])]
        simp only [pure_run, Outcome.after, List.append_nil, List.nil_append]
      · -- reported, and counted
        have hreport :
            (Action.report (.hidden record.uuid role) : Action ReferenceStore LedgerError _).run t
              = ⟨.ok (), t, [.hidden record.uuid role]⟩ := rfl
        simp only [hr, Bool.false_eq_true, if_false]
        rw [run_bind, hreport]
        simp only [run_bind, ih hrecords, pure_run, Outcome.after, List.append_nil, List.nil_append]
        rw [sifted_hidden hr, List.filter_cons_of_pos (by simp [hr])]
        rfl

/-- A page is answered from its records if all of them can be read, and fails at the first that cannot.
This is what `sift_finds` has for an answer, inside an invocation or not. -/
theorem result_sift (mode : Mode) (role : Role) (es : List Entry) (t : ReferenceStore) :
    ((sift mode role es).run t).result = (decodeAll es).map (sifted mode role) := by
  have hfinds : Finds t.saved (sift mode role es) t.entries _ := sift_finds mode role es
  obtain ⟨events, hrun⟩ := hfinds t.space
  exact congrArg Outcome.result hrun

/-- The summary of a page comes behind the reports of what it leaves out. -/
theorem run_present (session : Session) (role : Role) {page : ScanPage} {records : List Record}
    (h : page.entries.map (fun e => Record.decode e.2) = records.map .ok) (t : ReferenceStore) :
    let shown := records.filter (session.mode.canRead role)
    let hidden := records.filter fun r => !session.mode.canRead role r
    (present session role page).run t = ⟨.ok ⟨shown, page.bookmark⟩, t,
      (hidden.map fun r => .hidden r.uuid role) ++
        [.listed role shown.length hidden.length page.hasMore]⟩ := by
  intro shown hidden
  have hsifted : sifted session.mode role records = (shown, hidden.length) :=
    congrArg (shown, ·) List.countP_eq_length_filter
  unfold present
  rw [run_bind, run_sift _ _ h, hsifted]
  rfl

/-- What is not among the records that are kept is left out. -/
theorem filter_not_mem_filter (keep : Record → Bool) (records : List Record) :
    records.filter (fun r => r ∉ records.filter keep) = records.filter fun r => !keep r := by
  refine List.filter_congr fun r hr => ?_
  rw [Bool.eq_iff_iff]
  simp only [decide_eq_true_eq, List.mem_filter, hr, true_and, Bool.not_eq_true', Bool.not_eq_true]

/-- What a page reports, by whether its entries can be read: if they can, the answer is what is shown of
them. -/
theorem present_reported {session : Session} {name : String} (hname : asking session = .ok name)
    {size : Int} {bookmark : String} {t : ReferenceStore} {page : Page}
    (h : ((present session (.ofName name) (t.entries.page (.all size bookmark) size.toNat)).run
      t).result = .ok page) :
    Reported t session size bookmark page
      (ReferenceStore.scanReport t.space (.all size bookmark)
          (t.entries.page (.all size bookmark) size.toNat).entries.length ++
        ((present session (.ofName name) (t.entries.page (.all size bookmark) size.toNat)).run
          t).events) := by
  rw [KeyMap.page_all] at h ⊢
  have hsorted : ((t.entries.onward bookmark).take size.toNat).Pairwise fun a b => a.1 < b.1 :=
    (t.entries.onward_sorted bookmark).sublist (List.take_sublist ..)
  rcases readEach_cases Record.decode LedgerError.corrupt hsorted
    with ⟨records, hrecords, -⟩ | ⟨key, cause, -, hread⟩
  · have hlength := congrArg List.length hrecords
    rw [List.length_map, List.length_map] at hlength
    rw [run_present session (.ofName name) hrecords] at h ⊢
    obtain rfl := Except.ok.inj h
    refine ⟨name, records, hname, hrecords, ?_, ?_⟩
    · rw [filter_not_mem_filter, List.append_assoc]
      rfl
    · rw [filter_not_mem_filter, hlength]
      exact (List.length_eq_length_filter_add _).symm
  · -- what cannot be read is no answer
    have hdecode : decodeAll ((t.entries.onward bookmark).take size.toNat)
        = .error (.corrupt key cause) := hread
    unfold present at h
    rw [bind_run, result_sift, hdecode] at h
    cases h

/-- A page that is answered without refusals reports the scan, what it hides, and its summary.  A caller
who may not list, or a size that is not positive, would have been answered with an error. -/
theorem browse_reported {session : Session} {size : Int} {bookmark : String} {t : ReferenceStore}
    {page : Page} (h : ((browse session size bookmark).run t).result = .ok page) :
    Reported t session size bookmark page ((browse session size bookmark).run t).events := by
  unfold browse at h ⊢
  cases hadmitted : admitted session .list with
  | error e =>
    rw [bind_run, result_judge, hadmitted] at h
    cases h
  | ok role =>
    obtain ⟨name, hname, rfl, -⟩ := admitted_eq_ok.mp hadmitted
    rw [run_bind, judge_run_ok hadmitted] at h ⊢
    by_cases hsize : size ≤ 0
    · -- the size is refused, so there is no page
      simp only [hsize, if_true] at h
      cases h
    · have hlimit : (Scan.all size bookmark).limit = .ok size.toNat := if_neg hsize
      simp only [hsize, if_false] at h ⊢
      rw [run_bind, run_lift_ok (ReferenceStore.run_scan_ok hlimit t)] at h ⊢
      exact present_reported hname h

/-- **Listings** that answer have gone through their page as without refusals, and been let commit.  A
refusal of any of its calls, the commit among them, would have been the answer. -/
theorem list_reported {session : Session} {size : Int} {bookmark : String} {s : RefusingReference}
    {page : Page} (h : ((list session size bookmark).run s).result = .ok page) :
    Reported s.store session size bookmark page ((list session size bookmark).run s).events := by
  -- of the four courses of an invocation only the last one answers with a page
  cases (course_atomically (MadeOfReads.calls (browse_reads session size bookmark)) s).1 with
  | unbegun _ _ hresult => cases hresult.symm.trans h
  | uncommitted _ _ _ hresult => cases hresult.symm.trans h
  | abandoned _ _ hresult => cases hresult.symm.trans h
  | kept _ hbody hresult hevents =>
    cases hresult.symm.trans h
    -- a body that only reads did the same on the store beneath, if none of its calls was refused
    rcases browse_reads session size bookmark (readsTrack_inside (readsTrack_unchanged s.begun.store))
      s.begun s.begun.store ⟨⟨rfl, rfl⟩, rfl, rfl⟩ with hm | ⟨⟨e, he⟩, -⟩
    · rw [show ((list session size bookmark).run s).events = _ from hevents, hm.events]
      exact browse_reported (t := s.begun.store) (hm.result.symm.trans hbody)
    · cases he.symm.trans hbody

/-! ## Runs -/

/-- What the log has of an operation on a refusing store that shows `t`. -/
structure Logged (s : RefusingStore σ) (t : ReferenceStore) (session : Session) (command : Command)
    (o : Outcome (RefusingStore σ) LedgerError Reply) : Prop where
  /-- A denial, of the role that the answer names, if the request is refused, and none otherwise. -/
  denied : denials o.events = match o.result with
    | .ok _ => []
    | .error e => (e.denial?.map Event.denied).toList
  /-- A rewriting, if there is one, … -/
  rewritten : ∀ record role, command.replacement? = some record → Rewriting s t session record role →
    rewritings o.events = [.visibilityRewritten record role]
  /-- … and none otherwise. -/
  unrewritten : (∀ record role, command.replacement? = some record →
    ¬Rewriting s t session record role) → rewritings o.events = []
  /-- The records that a listing hides, and how many they are. -/
  listed : ∀ size bookmark page, command = .list size bookmark → o.result = .ok (.page page) →
    Reported t session size bookmark page o.events

/-- A command that replaces a record is an update by it. -/
theorem run_of_replacement [Store σ] {command : Command} {record : Record}
    (h : command.replacement? = some record) (session : Session) :
    (command.run session : Action σ LedgerError Reply) = done (update session record) := by
  cases command with
  | update submitted =>
    cases h
    rfl
  -- the text holds the record, so parsing it is no obstacle
  | updateText text =>
    have hsome : (Record.parse text).toOption = some record := h
    have hparse : parseRecord text = .ok record := by
      refine mapError_eq_ok.mpr ?_
      cases hfound : Record.parse text with
      | error e =>
        rw [hfound] at hsome
        cases hsome
      | ok submitted =>
        rw [hfound] at hsome
        exact congrArg _ (Option.some.inj hsome)
    show done (.ofExcept (parseRecord text) >>= update session) = _
    rw [hparse, ofExcept_ok, pure_bind]
  | _ => cases h

/-- **One operation** on the reference store is accounted for in all four respects, whichever of its
calls are refused: what it denies, what it rewrites, what it hides, and the summary of its page. -/
theorem logged_run (session : Session) (command : Command) (s : RefusingReference) :
    Logged s s.store session command ((command.run session).run s) := by
  have hupdate : ∀ {record}, command.replacement? = some record →
      rewritings ((command.run session).run s).events
        = rewritings ((update session record).run s).events := by
    intro record h
    rw [run_of_replacement h, done, run_map]
  refine ⟨?denied, fun record role h hrewriting => ?rewritten, fun hnone => ?unrewritten, ?listed⟩
  case denied =>
    have hwarns := fun event (h : denialAccount.counts event = true) => severity_of_isDenial h
    refine (owed_run hwarns session command (fun _ _ _ => rfl) s).trans ?_
    cases ((command.run session).run s).result <;> rfl
  case rewritten => exact (hupdate h).trans ((rewritings_update session record s).1 role hrewriting)
  -- a command that replaces nothing has no warning of its own; an update has none if nothing is
  -- rewritten
  case unrewritten =>
    cases h : command.replacement? with
    | none =>
      have hwarns := fun event (h : rewritingAccount.counts event = true) => severity_of_isRewriting h
      have hother : ∀ record role, command.replacement? = some record →
          rewritingAccount.counts (.visibilityRewritten record role) = false := fun record role h' => by
        cases h.symm.trans h'
      refine (owed_run hwarns session command hother s).trans ?_
      cases ((command.run session).run s).result <;> rfl
    | some record =>
      exact (hupdate h).trans ((rewritings_update session record s).2 fun role => hnone record role h)
  case listed =>
    rintro size bookmark page rfl h
    unfold Command.run at h ⊢
    rw [run_map] at h ⊢
    obtain ⟨page', hpage, ⟨⟩⟩ := map_eq_ok.mp h
    exact list_reported hpage

section

variable [Store σ] [LawfulStore σ]

/-- **One step.**  An operation is accounted for as on the reference store that is shown.  Its events
and its result are those of that store, and so are the refusals that it meets. -/
theorem logged_step {s : RefusingStore σ} {t : ReferenceStore} (hs : Shows s.store t)
    (session : Session) (command : Command) :
    Logged s t session command ((command.run session).run s) ∧
      ∃ t', Shows ((command.run session).run s).store.store t' := by
  let r : RefusingReference := ⟨t, s.refuses, s.calls⟩
  have hm := (tracks_run (simulates_alike LawfulStore.simulates) session command).matches (t := r)
    ⟨hs, rfl, rfl⟩
  -- all four respects are about events and results, which are those of the reference store
  obtain ⟨hdenied, hrewritten, hunrewritten, hlisted⟩ := logged_run session command r
  refine ⟨⟨?_, fun record role h hr => ?_, fun hnone => ?_, fun size bookmark page h hpage => ?_⟩,
    _, hm.store.store⟩
  · rw [hm.events, hm.result]
    exact hdenied
  · rw [hm.events]
    exact hrewritten record role h ⟨hr.begins, hr.looks, hr.allowed⟩
  · rw [hm.events]
    exact hunrewritten fun record role h hr => hnone record role h ⟨hr.begins, hr.looks, hr.allowed⟩
  · rw [hm.events]
    exact hlisted size bookmark page h (hm.result.symm.trans hpage)

/-- The stores that the steps of a run are taken in, one for each. -/
def visited {σ : Type} [Store σ] (s : σ) (steps : List (Session × Command)) : List σ :=
  (stages s steps).dropLast

/-- **Accounting.**  On every store, whatever it shows and whether an invocation is open or not, and
under every schedule of refusals, each operation of a run is accounted for in the log:

- it reports a denial exactly if it answers that its request is refused, of the role in that answer;
- it warns of rewritten visibility exactly if it is an update that comes to be allowed on a stored
  record with another sender or access list;
- if it is a listing that answers, it reports each record of the page that is not in the answer, and
  then how many are and how many are not. -/
theorem log_accounts (s : RefusingStore σ) (t : ReferenceStore) (hs : Shows s.store t)
    (steps : List (Session × Command)) :
    List.Forall₂ (fun step s' => ∃ t', Shows s'.store t' ∧
      Logged s' t' step.1 step.2 ((step.2.run step.1).run s')) steps (visited s steps) := by
  induction steps generalizing s t with
  | nil => exact .nil
  | cons step steps ih =>
    obtain ⟨hlogged, t', hs'⟩ := logged_step hs step.1 step.2
    exact .cons ⟨t, hs, hlogged⟩ (ih _ t' hs')

end

/-- A store in memory with one record, which refuses to store anything. -/
def refusingPuts : RefusingStore MemoryStore :=
  .ofStore ⟨KeyMap.empty.insert "CTI_1" { Record.empty with uuid := "1" }.encode, none⟩
    fun call _ => call = .put

/-- The tactical unit tries to remove the record, and the head of operations gives it to that unit. -/
def grantSteps : List (Session × Command) :=
  [(⟨.ofRole "TacticalUnit", .rbac⟩, .delete "1"),
    (⟨.ofRole "HeadOfOperations", .rbac⟩,
      .update { Record.empty with uuid := "1", access := ["TacticalUnit"] })]

/-- The first is denied, and the second one warns although it cannot be carried out. -/
theorem grant_logged :
    ∃ first second, visited refusingPuts grantSteps = [first, second] ∧
      denials (((Command.delete "1").run ⟨.ofRole "TacticalUnit", .rbac⟩).run first).events
        = [.denied ⟨.tacticalUnit, .delete, some "1"⟩] ∧
      rewritings (((Command.update { Record.empty with uuid := "1", access := ["TacticalUnit"] }).run
          ⟨.ofRole "HeadOfOperations", .rbac⟩).run second).events
        = [.visibilityRewritten { Record.empty with uuid := "1", access := ["TacticalUnit"] }
            .headOfOperations] := by
  have h := log_accounts refusingPuts ⟨refusingPuts.store.entries, none, none⟩ rfl grantSteps
  refine ⟨_, _, rfl, ?_, ?_⟩
  · obtain _ | ⟨⟨t, -, hfirst⟩, -⟩ := h
    exact hfirst.denied
  · obtain _ | ⟨-, _ | ⟨⟨t, hshows, hsecond⟩, -⟩⟩ := h
    cases hshows
    refine hsecond.rewritten _ _ rfl ⟨⟨rfl, rfl⟩, rfl, ?_⟩
    exact ⟨_, _, _, rfl, Record.decode_encode _, rfl, rfl, by decide, .inr (by decide)⟩

end ThreatLedger.Ledger
