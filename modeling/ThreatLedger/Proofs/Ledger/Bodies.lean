/-
  The operations as actions on every store.

  1. **Parts** — judging a request asks the store nothing; loading, storing and sifting are made of
     calls.
  2. **Bodies** — the body of each operation is tracked if its parts are.  So it is made of calls, and
     those of `read` and `list` are made of reads.
  3. **Commands** — what holds of invocations, and is kept by maps and by what is decided before them,
     holds of every command (`related_run`).  On a store that simulates another one every command
     answers as it does there (`tracks_run`), and under refusals every command endures
     (`endures_run`).
-/
import ThreatLedger.Ledger.Command
import ThreatLedger.Proofs.Store.Invocations

open ThreatLedger.Action

namespace ThreatLedger.Ledger

/-! ## Parts -/

section

variable {σ τ : Type} {R : σ → τ → Prop} {P : σ → Prop}

/-- A request is judged without a call, so it is judged alike on any two stores.  Whatever relation is
kept between them is still kept afterwards. -/
theorem tracks_authorize (mode : Mode) (role : Role) (request : Request) :
    Tracks R P (authorize mode role request) (authorize mode role request) := by
  unfold authorize
  cases mode.check role request with
  | allow => exact tracks_pure ()
  | deny denial => exact tracks_bind (tracks_report _) fun _ => tracks_fail _

/-- What follows a judgement only has to be tracked for the role of the caller.  That role is decided by
the session, which is the same on both sides. -/
theorem tracks_judge_bind {α : Type} {session : Session} (request : Request)
    {f : Role → Action σ LedgerError α} {g : Role → Action τ LedgerError α}
    (h : ∀ role, callerRole session = .ok role → Tracks R P (f role) (g role)) :
    Tracks R P (judge session request >>= f) (judge session request >>= g) := by
  unfold judge
  cases hrole : callerRole session with
  | error e => exact tracks_fail e
  | ok role =>
    -- only this role is handed on, so nothing has to hold of the others
    simp only [ofExcept_ok, pure_bind, bind_assoc]
    exact tracks_bind (tracks_authorize _ _ _) fun _ => h role hrole

variable [Store σ] [Store τ]

theorem tracks_putRecord (h : CallsTrack R P) (record : Record) :
    Tracks R P (putRecord record) (putRecord record) :=
  tracks_lift (h.put _ _)

/-- By induction on the records: if storing one is the same on two stores, so is storing them all. -/
theorem tracks_putRecords (hput : ∀ record, Tracks R P (putRecord record) (putRecord record))
    (records : List Record) : Tracks R P (records.forM putRecord) (records.forM putRecord) := by
  induction records with
  | nil => exact tracks_pure _
  | cons record records ih => exact tracks_bind (hput record) fun _ => ih

theorem tracks_isStored (h : ReadsTrack R P) (key : String) :
    Tracks R P (isStored key) (isStored key) :=
  tracks_bind (tracks_lift (h.get key)) fun _ => tracks_pure _

theorem tracks_load (h : ReadsTrack R P) (uuid : String) : Tracks R P (load uuid) (load uuid) := by
  refine tracks_bind (tracks_lift (h.get _)) fun found => ?_
  cases found with
  | none => exact tracks_fail _
  | some value => exact tracks_ofExcept _

/-- By induction on the entries: each is taken out by a call, and then decided on without one. -/
theorem tracks_sift (h : ReadsTrack R P) (mode : Mode) (role : Role) (es : List Entry) :
    Tracks R P (sift mode role es) (sift mode role es) := by
  induction es with
  | nil => exact tracks_pure _
  | cons e es ih =>
    refine tracks_bind (tracks_lift (h.entry e)) fun e => ?_
    refine tracks_bind (tracks_ofExcept _) fun record => ?_
    by_cases hr : mode.canRead role record
    · simp only [hr, if_true]
      exact tracks_bind ih fun _ => tracks_pure _
    · simp only [hr]
      exact tracks_bind (tracks_report _) fun _ => tracks_bind ih fun _ => tracks_pure _

end

/-! ## Bodies -/

section

variable {σ : Type} [Store σ]

/-- What `fetch` does with the record that it loads. -/
def release (session : Session) (record : Record) : Action σ LedgerError Record := do
  let _ ← judge session (.read record)
  pure record

/-- What `replace` does with the record that it loads. -/
def exchange (session : Session) (record stored : Record) : Action σ LedgerError Unit := do
  let role ← judge session (.update stored)
  if rewritesVisibility stored record then .report (.visibilityRewritten record role)
  putRecord record
  .report (.updated record.uuid role)

/-- What `browse` does with the page that it scans. -/
def present (session : Session) (role : Role) (page : ScanPage) : Action σ LedgerError Page := do
  let (shown, withheld) ← sift session.mode role page.entries
  .report (.listed role shown.length withheld page.hasMore)
  pure ⟨shown, page.bookmark⟩

/-- A read is a look-up and what is done with the record, so that the two are followed one by one. -/
theorem fetch_eq (session : Session) (uuid : String) :
    (fetch session uuid : Action σ LedgerError Record) = load uuid >>= release session := rfl

/-- An update is a look-up and what is done with the record, so that the two are followed one by one. -/
theorem replace_eq (session : Session) (record : Record) :
    (replace session record : Action σ LedgerError Unit)
      = load record.uuid >>= exchange session record := rfl

end

section

variable {σ τ : Type} {R : σ → τ → Prop} {P : σ → Prop}

theorem tracks_release (session : Session) (record : Record) :
    Tracks R P (release session record) (release session record) :=
  tracks_judge_bind _ fun _ _ => tracks_pure record

variable [Store σ] [Store τ]
  (hput : ∀ record, Tracks R P (putRecord record) (putRecord record))
  (hfind : ∀ key, Tracks R P (isStored key) (isStored key))

include hput in
theorem tracks_writeSeeds (session : Session) :
    Tracks R P (writeSeeds session) (writeSeeds session) :=
  tracks_judge_bind _ fun _ _ => tracks_bind (tracks_putRecords hput _) fun _ => tracks_report _

include hput hfind in
/-- A new record is looked for and stored, the same on two stores if each of these is. -/
theorem tracks_storeNew (session : Session) (record : Record) :
    Tracks R P (storeNew session record) (storeNew session record) := by
  refine tracks_judge_bind _ fun role _ => tracks_bind (hfind _) fun found => ?_
  cases found with
  | true => exact tracks_fail _
  | false => exact tracks_bind (hput record) fun _ => tracks_report (.created record.uuid role)

include hput in
/-- What an update does once its record is loaded is one call, a `put`. -/
theorem tracks_exchange (session : Session) (record stored : Record) :
    Tracks R P (exchange session record stored) (exchange session record stored) := by
  refine tracks_judge_bind _ fun role _ => ?_
  have rest := tracks_bind (hput record) fun _ => tracks_report (.updated record.uuid role)
  by_cases hv : rewritesVisibility stored record
  · simp only [hv, if_true]
    exact tracks_bind (tracks_report _) fun _ => rest
  · simp only [hv]
    exact rest

include hfind in
/-- A removal looks for its record and deletes it, the same on two stores if each of these is. -/
theorem tracks_remove (hdelete : ∀ key, Tracks R P (Store.delete key) (Store.delete key))
    (session : Session) (uuid : String) :
    Tracks R P (remove session uuid) (remove session uuid) := by
  refine tracks_bind (hfind _) fun found => ?_
  cases found with
  | true =>
    exact tracks_judge_bind _ fun role _ => tracks_bind (tracks_lift (hdelete _)) fun _ =>
      tracks_report (.deleted uuid role)
  | false => exact tracks_fail _

/-- A page is only scanned if one of its size can be: for any other size the answer is an error, and no
call is made.  So the scan is asked about under a positive size alone. -/
theorem tracks_browse {session : Session} {size : Int} {bookmark : String}
    (hpage : ∀ role, callerRole session = .ok role → 0 < size →
      Tracks R P ((Store.scan (.all size bookmark)).lift >>= present session role)
        ((Store.scan (.all size bookmark)).lift >>= present session role)) :
    Tracks R P (browse session size bookmark) (browse session size bookmark) := by
  refine tracks_judge_bind _ fun role hrole => ?_
  by_cases hs : size ≤ 0
  · -- the failure comes before the scan, of which nothing is known here
    simp only [hs, if_true]
    exact tracks_fail _
  · simp only [hs, if_false]
    exact hpage role hrole (by omega)

end

theorem writeSeeds_calls (session : Session) :
    MadeOfCalls fun σ _ => writeSeeds (σ := σ) session :=
  fun h => tracks_writeSeeds (tracks_putRecord h) session

theorem storeNew_calls (session : Session) (record : Record) :
    MadeOfCalls fun σ _ => storeNew (σ := σ) session record :=
  fun h => tracks_storeNew (tracks_putRecord h) (tracks_isStored h.toReadsTrack) session record

theorem fetch_reads (session : Session) (uuid : String) :
    MadeOfReads fun σ _ => fetch (σ := σ) session uuid := by
  intro σ τ _ _ R P h
  simp only [fetch_eq]
  exact tracks_bind (tracks_load h uuid) (tracks_release session)

theorem replace_calls (session : Session) (record : Record) :
    MadeOfCalls fun σ _ => replace (σ := σ) session record := by
  intro σ τ _ _ R P h
  simp only [replace_eq]
  exact tracks_bind (tracks_load h.toReadsTrack _)
    (tracks_exchange (tracks_putRecord h) session record)

theorem remove_calls (session : Session) (uuid : String) :
    MadeOfCalls fun σ _ => remove (σ := σ) session uuid :=
  fun h => tracks_remove (tracks_isStored h.toReadsTrack) h.delete session uuid

/-- The body of `list` is made of reads, by the scan and by each entry that is taken out of it. -/
theorem browse_reads (session : Session) (size : Int) (bookmark : String) :
    MadeOfReads fun σ _ => browse (σ := σ) session size bookmark := by
  intro σ τ _ _ R P h
  refine tracks_browse fun role _ _ => tracks_bind (tracks_lift (h.scan _)) fun page => ?_
  refine tracks_bind (tracks_sift h session.mode role page.entries) fun found => ?_
  exact tracks_bind (tracks_report _) fun _ => tracks_pure _

/-! ## Commands -/

section

variable {σ τ : Type} [Store σ] [Store τ]

/-- A relation between actions on two stores, or in two sessions, that holds of the ledger's invocations,
and is kept by maps and by what is decided before them, holds of every command. -/
theorem related_run {Q : ∀ {α : Type}, Action σ LedgerError α → Action τ LedgerError α → Prop}
    (hmap : ∀ {α β : Type} {x y} (f : α → β), Q x y → Q (f <$> x) (f <$> y))
    (hofExcept : ∀ {α β : Type} {r : Except LedgerError α} {f g},
      (∀ a, Q (α := β) (f a) (g a)) → Q (.ofExcept r >>= f) (.ofExcept r >>= g))
    {session other : Session}
    (hinit : Q (init session) (init other))
    (hnew : ∀ record, Q (atomically (storeNew session record)) (atomically (storeNew other record)))
    (hread : ∀ uuid, Q (read session uuid) (read other uuid))
    (hupdate : ∀ record, Q (update session record) (update other record))
    (hdelete : ∀ uuid, Q (delete session uuid) (delete other uuid))
    (hlist : ∀ size bookmark, Q (list session size bookmark) (list other size bookmark))
    (command : Command) : Q (command.run session) (command.run other) := by
  have hcreate : ∀ record, Q (create session record) (create other record) :=
    fun record => hofExcept fun _ => hnew record
  cases command with
  | init => exact hmap _ hinit
  | create record => exact hmap _ (hcreate record)
  | createText text => exact hmap _ (hofExcept hcreate)
  | read uuid => exact hmap _ (hread uuid)
  | update record => exact hmap _ (hupdate record)
  | updateText text => exact hmap _ (hofExcept hupdate)
  | delete uuid => exact hmap _ (hdelete uuid)
  | list size bookmark => exact hmap _ (hlist size bookmark)

/-- It is enough that the relation holds of all invocations that are made of calls.  Each command is one
such invocation, behind what is decided before it. -/
theorem related_run_of_calls
    {Q : ∀ {α : Type}, Action σ LedgerError α → Action τ LedgerError α → Prop}
    (hmap : ∀ {α β : Type} {x y} (f : α → β), Q x y → Q (f <$> x) (f <$> y))
    (hofExcept : ∀ {α β : Type} {r : Except LedgerError α} {f g},
      (∀ a, Q (α := β) (f a) (g a)) → Q (.ofExcept r >>= f) (.ofExcept r >>= g))
    (hinvocation : ∀ {α : Type} {x : ∀ (σ : Type) [Store σ], Action σ LedgerError α}, MadeOfCalls x →
      Q (atomically (x σ)) (atomically (x τ)))
    (session : Session) (command : Command) : Q (command.run session) (command.run session) :=
  related_run hmap hofExcept
    (hinvocation (writeSeeds_calls session))
    (fun record => hinvocation (storeNew_calls session record))
    (fun uuid => hinvocation (MadeOfReads.calls (fetch_reads session uuid)))
    (fun record => hinvocation (replace_calls session record))
    (fun uuid => hinvocation (remove_calls session uuid))
    (fun size bookmark => hinvocation (MadeOfReads.calls (browse_reads session size bookmark)))
    command

variable {R : σ → τ → Prop}

theorem tracks_read (h : Simulates R) (session : Session) (uuid : String) :
    Tracks R Never (read session uuid) (read session uuid) :=
  h.atomically (fetch_reads session uuid h.toReadsTrack)

theorem tracks_list (h : Simulates R) (session : Session) (size : Int) (bookmark : String) :
    Tracks R Never (list session size bookmark) (list session size bookmark) :=
  h.atomically (browse_reads session size bookmark h.toReadsTrack)

/-- **Simulation.**  A command answers as it does on the store that is simulated, with the same events.
It is made of calls, and the calls of the two stores track each other. -/
theorem tracks_run (h : Simulates R) (session : Session) (command : Command) :
    Tracks R Never (command.run session) (command.run session) :=
  related_run_of_calls tracks_map (tracks_bind (tracks_ofExcept _))
    (fun hx => h.atomically (hx h.toCallsTrack)) session command

end

/-- **Endurance.**  Under refusals that let invocations end, a command answers as without faults, or
fails with an error of the store and changes nothing. -/
theorem endures_run (session : Session) (command : Command) :
    Endures (command.run session) (command.run session) :=
  related_run_of_calls endures_map endures_ofExcept endures_atomically session command

end ThreatLedger.Ledger
