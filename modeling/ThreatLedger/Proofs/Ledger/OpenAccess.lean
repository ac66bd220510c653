/-
  Open access is the access of the head of operations.

  1. **Agreement** — actions agree if from every store they give the same result and leave the same store
     behind.  What they report may differ: without enforcement it is said that somebody anonymous did
     it.
  2. **Judgement** — without enforcement every request is allowed and nobody is asked who they are; the
     head of operations is asked, and is allowed every request too.
  3. **Bodies** — so each operation agrees without enforcement with itself under the head: what is found
     first, what is refused by the store, and which records of a page are shown.
  4. **Runs** — by induction, commands are answered alike one by one, on every store
     (`open_access_is_head_access`).

  Nothing is asked of the store here.  It may hold anything under any key, have an invocation open, and
  refuse any of its calls, the ends of invocations among them.
-/
import ThreatLedger.Proofs.Ledger.Admission
import ThreatLedger.Store.Memory
import ThreatLedger.Store.Refusing

open ThreatLedger.Action

namespace ThreatLedger

/-! ## Agreement -/

namespace Action

variable {σ ε ε' α β : Type}

/-- From every store, the same result and the same store afterwards. -/
def Agrees (x y : Action σ ε α) : Prop :=
  ∀ s, (x.run s).result = (y.run s).result ∧ (x.run s).store = (y.run s).store

theorem agrees_refl (x : Action σ ε α) : x.Agrees x := fun _ => ⟨rfl, rfl⟩

/-- Whatever is reported: events are not compared, since those of the head name another role. -/
theorem agrees_report (e f : Event) : (report e : Action σ ε Unit).Agrees (report f) :=
  fun _ => ⟨rfl, rfl⟩

/-- Actions that agree do so in sequence, as the second ones begin with the same store. -/
theorem agrees_bind {x y : Action σ ε α} {f g : α → Action σ ε β} (h : x.Agrees y)
    (hfg : ∀ a, (f a).Agrees (g a)) : (x >>= f).Agrees (y >>= g) := by
  intro s
  obtain ⟨hresult, hstore⟩ := h s
  rw [bind_run, bind_run, hresult, hstore]
  cases (y.run s).result with
  | error e => exact ⟨rfl, rfl⟩
  | ok a => exact hfg a (y.run s).store

/-- What follows one action is carried out alike. -/
theorem agrees_behind (x : Action σ ε α) {f g : α → Action σ ε β} (hfg : ∀ a, (f a).Agrees (g a)) :
    (x >>= f).Agrees (x >>= g) :=
  agrees_bind (agrees_refl x) hfg

/-- Actions that agree do so also where their errors are answers, since the errors are the same. -/
theorem agrees_attempt {x y : Action σ ε α} (h : x.Agrees y) :
    (x.attempt : Action σ ε' (Except ε α)).Agrees y.attempt := by
  intro s
  obtain ⟨hresult, hstore⟩ := h s
  exact ⟨congrArg Except.ok hresult, hstore⟩

theorem agrees_map {x y : Action σ ε α} (f : α → β) (h : x.Agrees y) :
    (f <$> x).Agrees (f <$> y) := by
  intro s
  obtain ⟨hresult, hstore⟩ := h s
  rw [run_map, run_map]
  exact ⟨congrArg (Except.map f) hresult, hstore⟩

variable [Store σ] [StoreFailure ε]

/-- Invocations agree if their bodies do: they begin alike, and end as the result says. -/
theorem agrees_atomically {x y : Action σ ε α} (h : x.Agrees y) :
    (atomically x).Agrees (atomically y) := by
  unfold atomically
  apply agrees_behind
  intro _
  exact agrees_bind (agrees_attempt h) fun r => agrees_refl _

end Action

namespace Ledger

/-! ## Judgement -/

/-- Without enforcement the caller is not asked, so the provider cannot fail, and every request is
admitted. -/
theorem judge_openAccess {σ : Type} (anyone : Caller) (request : Request) :
    (judge ⟨anyone, .openAccess⟩ request : Action σ LedgerError Role) = pure .anonymous := rfl

theorem may_head (request : Request) : Role.headOfOperations.may request := by
  cases request <;> rfl

/-- The head of operations is asked, and is allowed every request, by the rows of the table for that
name. -/
theorem judge_head {σ : Type} {head : Caller} (hhead : Presents head "HeadOfOperations")
    (request : Request) :
    (judge ⟨head, .rbac⟩ request : Action σ LedgerError Role) = pure .headOfOperations := by
  have hrole : callerRole ⟨head, .rbac⟩ = .ok .headOfOperations := callerRole_of_presents hhead
  have hcheck : Mode.rbac.check .headOfOperations request = .allow := if_pos (may_head request)
  unfold judge authorize
  rw [hrole]
  simp only [ofExcept_ok, pure_bind, hcheck]

/-- What follows a judgement has to agree for the role that stands for everybody and for the head. -/
theorem agrees_judge_bind {σ α : Type} {anyone head : Caller}
    (hhead : Presents head "HeadOfOperations") (request : Request)
    {f g : Role → Action σ LedgerError α} (h : (f .anonymous).Agrees (g .headOfOperations)) :
    (judge ⟨anyone, .openAccess⟩ request >>= f).Agrees (judge ⟨head, .rbac⟩ request >>= g) := by
  rw [judge_openAccess, judge_head hhead, pure_bind, pure_bind]
  exact h

/-! ## Bodies -/

section

variable {σ : Type} [Store σ] {anyone head : Caller}

theorem agrees_writeSeeds (hhead : Presents head "HeadOfOperations") :
    (writeSeeds ⟨anyone, .openAccess⟩ : Action σ LedgerError Unit).Agrees
      (writeSeeds ⟨head, .rbac⟩) := by
  apply agrees_judge_bind hhead
  apply agrees_behind
  intro _
  exact agrees_report _ _

/-- A record is stored anew for anyone as for the head.  Both find the same keys taken, and the report
names another role. -/
theorem agrees_storeNew (hhead : Presents head "HeadOfOperations") (record : Record) :
    (storeNew ⟨anyone, .openAccess⟩ record : Action σ LedgerError Unit).Agrees
      (storeNew ⟨head, .rbac⟩ record) := by
  apply agrees_judge_bind hhead
  apply agrees_behind
  intro found
  cases found with
  | true => exact agrees_refl _
  | false =>
    apply agrees_behind
    intro _
    exact agrees_report _ _

theorem agrees_fetch (hhead : Presents head "HeadOfOperations") (uuid : String) :
    (fetch ⟨anyone, .openAccess⟩ uuid : Action σ LedgerError Record).Agrees
      (fetch ⟨head, .rbac⟩ uuid) := by
  apply agrees_behind
  intro record
  apply agrees_judge_bind hhead
  exact agrees_refl _

/-- A record is replaced for anyone as for the head; only the role in the report differs. -/
theorem agrees_replace (hhead : Presents head "HeadOfOperations") (record : Record) :
    (replace ⟨anyone, .openAccess⟩ record : Action σ LedgerError Unit).Agrees
      (replace ⟨head, .rbac⟩ record) := by
  apply agrees_behind
  intro stored
  apply agrees_judge_bind hhead
  have hrest : ∀ role role', ((do putRecord record; .report (.updated record.uuid role)) :
      Action σ LedgerError Unit).Agrees (do putRecord record; .report (.updated record.uuid role')) :=
    fun _ _ => agrees_behind _ fun _ => agrees_report _ _
  -- whether visibility is rewritten depends on the records alone, so both report it or neither does
  by_cases hv : rewritesVisibility stored record
  · simp only [hv, if_true]
    exact agrees_bind (agrees_report _ _) fun _ => hrest _ _
  · simp only [hv]
    exact hrest _ _

theorem agrees_remove (hhead : Presents head "HeadOfOperations") (uuid : String) :
    (remove ⟨anyone, .openAccess⟩ uuid : Action σ LedgerError Unit).Agrees
      (remove ⟨head, .rbac⟩ uuid) := by
  apply agrees_behind
  intro found
  cases found with
  | false => exact agrees_refl _
  | true =>
    apply agrees_judge_bind hhead
    apply agrees_behind
    intro _
    exact agrees_report _ _

/-- No record is withheld, neither without enforcement nor from the head.  By induction on the entries,
of which a corrupt one ends both pages. -/
theorem agrees_sift (es : List Entry) :
    (sift .openAccess .anonymous es : Action σ LedgerError _).Agrees
      (sift .rbac .headOfOperations es) := by
  induction es with
  | nil => exact agrees_refl _
  | cons e es ih =>
    apply agrees_behind
    intro e
    apply agrees_behind
    intro record
    -- neither mode withholds the record, so the tests can be decided
    have hopen : Mode.openAccess.canRead .anonymous record = true := rfl
    have hhead : Mode.rbac.canRead .headOfOperations record = true := rfl
    simp only [hopen, hhead, if_true]
    exact agrees_bind ih fun _ => agrees_refl _

/-- A page shows anyone what it shows the head: everything.  The sizes that are refused are refused to
both. -/
theorem agrees_browse (hhead : Presents head "HeadOfOperations") (size : Int) (bookmark : String) :
    (browse ⟨anyone, .openAccess⟩ size bookmark : Action σ LedgerError Page).Agrees
      (browse ⟨head, .rbac⟩ size bookmark) := by
  apply agrees_judge_bind hhead
  by_cases hs : size ≤ 0
  · simp only [hs, if_true]
    exact agrees_refl _
  · simp only [hs, if_false]
    apply agrees_behind
    intro page
    apply agrees_bind (agrees_sift page.entries)
    intro found
    exact agrees_bind (agrees_report _ _) fun _ => agrees_refl _

/-- **One step.**  Without enforcement a command does for anyone what it does for the head.  What is
decided before an invocation does not depend on the mode. -/
theorem agrees_run (anyone : Caller) (hhead : Presents head "HeadOfOperations") (command : Command) :
    (command.run ⟨anyone, .openAccess⟩ : Action σ LedgerError Reply).Agrees
      (command.run ⟨head, .rbac⟩) := by
  refine related_run agrees_map (agrees_bind (agrees_refl _)) ?init ?new ?read ?update ?delete ?list
    command
  case init => exact agrees_atomically (agrees_writeSeeds hhead)
  case new => exact fun record => agrees_atomically (agrees_storeNew hhead record)
  case read => exact fun uuid => agrees_atomically (agrees_fetch hhead uuid)
  case update => exact fun record => agrees_atomically (agrees_replace hhead record)
  case delete => exact fun uuid => agrees_atomically (agrees_remove hhead uuid)
  case list => exact fun size bookmark => agrees_atomically (agrees_browse hhead size bookmark)

end

/-! ## Runs -/

/-- A command, who gives it where nothing is enforced, and who gives it under enforcement. -/
structure Twin where
  command : Command
  anyone : Caller
  head : Caller

/-- The command without enforcement. -/
def Twin.unenforced (step : Twin) : Session × Command := (⟨step.anyone, .openAccess⟩, step.command)

/-- The command under enforcement. -/
def Twin.enforced (step : Twin) : Session × Command := (⟨step.head, .rbac⟩, step.command)

/-- The answer to each command of a run, and the store behind it. -/
def journal {σ : Type} [Store σ] (s : σ) (steps : List (Session × Command)) :
    List (Except LedgerError Reply × σ) :=
  (outcomes s steps).map fun o => (o.result, o.store)

section

variable {σ : Type} [Store σ]

/-- **Open access.**  Whatever a store holds, and whichever of its calls it refuses: commands that
anyone gives without enforcement, nobody known and somebody whom the provider fails to identify among
them, are answered one by one as if the head of operations gave them under enforcement, and leave the
same stores behind.  Without enforcement a command is one and the same for all callers. -/
theorem open_access_is_head_access (s : σ) (steps : List Twin)
    (hheads : ∀ step ∈ steps, Presents step.head "HeadOfOperations") :
    journal s (steps.map Twin.unenforced) = journal s (steps.map Twin.enforced) ∧
      ∀ (command : Command) (one other : Caller),
        (command.run ⟨one, .openAccess⟩ : Action σ LedgerError Reply)
          = command.run ⟨other, .openAccess⟩ := by
  refine ⟨?_, fun command one other => ?_⟩
  · induction steps generalizing s with
    | nil => rfl
    | cons step steps ih =>
      obtain ⟨hhead, hheads⟩ := List.forall_mem_cons.mp hheads
      obtain ⟨hresult, hstore⟩ := agrees_run step.anyone hhead step.command s
      -- the next command finds the same store, so nothing has to be carried along but that
      have hrest := ih ((step.command.run ⟨step.head, .rbac⟩).run s).store hheads
      exact congrArg₂ List.cons (Prod.ext hresult hstore)
        ((congrArg (journal · (steps.map Twin.unenforced)) hstore).trans hrest)
  · cases command <;> rfl

end

/-- A store in memory that holds no record under a key, and refuses to take anything back. -/
def stuckStore : RefusingStore MemoryStore :=
  .ofStore ⟨KeyMap.empty.insert "CTI_1" [0xff], none⟩
    (.after fun call => if call = .rollback then some 0 else none)

/-- The seeds are written, then what is no record is asked for, and then a page. -/
def stuckRun : List Twin :=
  [⟨.init, .failing "down", .ofRole "HeadOfOperations"⟩,
    ⟨.read "1", .known [], .ofRole "HeadOfOperations"⟩,
    ⟨.list 10 "", .ofRole "TacticalUnit", .ofRole "HeadOfOperations"⟩]

/-- The read fails and stays open, so that the page cannot be listed, for the head as for the
others. -/
theorem stuckRun_alike :
    (journal stuckStore (stuckRun.map Twin.unenforced)).map (·.1) =
        [.ok .done, .error (.corrupt "CTI_1" .expectedValue), .error (.store .alreadyOpen)] ∧
      journal stuckStore (stuckRun.map Twin.unenforced)
        = journal stuckStore (stuckRun.map Twin.enforced) := by
  have hheads : ∀ step ∈ stuckRun, Presents step.head "HeadOfOperations" := by decide
  exact ⟨by rfl, (open_access_is_head_access stuckStore stuckRun hheads).1⟩

end Ledger
end ThreatLedger
