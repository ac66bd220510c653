/-
  The order of privilege, as the operations of the ledger bear it out.

  1. **Order** — `Below` has one constructor for each pair of neighbours; what the table permits a name
     it permits every name above it (`Permits.raise`).
  2. **Success** — an action entails another one if wherever it succeeds the other one does too, with a
     related result, and leaves the same store behind.
  3. **Operations** — so each operation of a caller entails that of a caller above: the requests are
     permitted to both, and no record is withheld from the second one that is shown to the first.
  4. **Updates** — whoever may replace a stored record may see it, so an update that would succeed is
     never one of a record that cannot be read.

  An operation may well fail for both callers, and then with different errors: nothing is said of that.
-/
import Mathlib.Logic.Relation
import ThreatLedger.Proofs.Ledger.Visibility

open ThreatLedger.Action

namespace ThreatLedger

/-! ## Order -/

/-- One name is directly below another one.  The two units are below the special operations unit, but
not comparable with each other; a name that is not recognized is below both of them. -/
inductive Below : String → String → Prop
  | special : Below "SpecialOperationsUnit" "HeadOfOperations"
  | intelligence : Below "IntelligenceUnit" "SpecialOperationsUnit"
  | tactical : Below "TacticalUnit" "SpecialOperationsUnit"
  | other {name upper : String} :
    name ∉ ["HeadOfOperations", "SpecialOperationsUnit", "IntelligenceUnit", "TacticalUnit"] →
    upper ∈ ["IntelligenceUnit", "TacticalUnit"] → Below name upper

/-- Every kind of request has a row for the head, whatever record it is about. -/
theorem permits_head (request : Request) : Permits "HeadOfOperations" request := by
  cases request with
  | init => exact .init rfl
  | create => exact .create (by decide)
  | read record => exact .read (.head rfl)
  | update stored => exact .update (.head rfl)
  | delete uuid => exact .delete rfl
  | list => exact .list (by decide)

/-- No row of the table is for a name that is not recognized, so that such a caller is permitted
nothing. -/
theorem not_permits_other {name : String} {request : Request}
    (h : name ∉ ["HeadOfOperations", "SpecialOperationsUnit", "IntelligenceUnit", "TacticalUnit"]) :
    ¬Permits name request := by
  simp only [List.mem_cons, List.not_mem_nil, or_false, not_or] at h
  obtain ⟨head, special, intelligence, tactical⟩ := h
  intro hp
  -- every row asks for one of the four names, by itself or in a list
  cases hp with
  | init hname => exact head hname
  | create hname => simp only [List.mem_cons, List.not_mem_nil] at hname; tauto
  | read hread => rcases hread with hname | hname | ⟨hname, -⟩ | ⟨hname, -⟩ <;> contradiction
  | update hupdate => rcases hupdate with hname | ⟨hname, -⟩ | ⟨hname, -⟩ <;> contradiction
  | delete hname => exact head hname
  | list hname => simp only [List.mem_cons, List.not_mem_nil] at hname; tauto

/-- The special operations unit may do what either unit may.  What the intelligence unit may replace it
has sent itself, so the head has not. -/
theorem Permits.raise_unit {name : String} {request : Request} (h : Permits name request)
    (hname : name ∈ ["IntelligenceUnit", "TacticalUnit"]) :
    Permits "SpecialOperationsUnit" request := by
  have hne : name ≠ "HeadOfOperations" := by rintro rfl; revert hname; decide
  cases h with
  | init hhead => exact absurd hhead hne
  | create _ => exact .create (by decide)
  | read _ => exact .read (.special rfl)
  | update hupdate =>
    cases hupdate with
    | head hhead => exact absurd hhead hne
    | special _ hsender => exact .update (.special rfl hsender)
    -- what it may replace it has sent itself
    | intelligence _ hsender _ =>
      have hother : "IntelligenceUnit" ≠ "HeadOfOperations" := by decide
      exact .update (.special rfl (hsender ▸ hother))
  | delete hhead => exact absurd hhead hne
  | list _ => exact .list (by decide)

/-- **The order of roles**, one step of it: what a role is permitted, the one above it is. -/
theorem Permits.raise_one {lower upper : String} {request : Request} (h : Permits lower request)
    (hbelow : Below lower upper) : Permits upper request := by
  cases hbelow with
  | special => exact permits_head request
  | intelligence => exact h.raise_unit (by decide)
  | tactical => exact h.raise_unit (by decide)
  | other hother _ => exact absurd h (not_permits_other hother)

/-- **Order.**  What is permitted to a name is permitted to every name above it. -/
theorem Permits.raise {lower upper : String} {request : Request}
    (hbelow : Relation.TransGen Below lower upper) (h : Permits lower request) :
    Permits upper request := by
  induction hbelow with
  | single hone => exact h.raise_one hone
  | tail _ hone ih => exact ih.raise_one hone

/-! ## Success -/

namespace Action

variable {σ ε ε' α β α' β' : Type} {R : α → β → Prop} {S : α' → β' → Prop}

/-- Where `x` succeeds, so does `y`, with a related result, and both leave the same store behind. -/
def Entails (R : α → β → Prop) (x : Action σ ε α) (y : Action σ ε β) : Prop :=
  ∀ s a, (x.run s).result = .ok a →
    ∃ b, (y.run s).result = .ok b ∧ R a b ∧ (y.run s).store = (x.run s).store

theorem entails_refl (x : Action σ ε α) : x.Entails Eq x := fun _ a h => ⟨a, h, rfl, rfl⟩

theorem entails_pure {a : α} {b : β} (h : R a b) : (pure a : Action σ ε α).Entails R (pure b) := by
  rintro s _ ⟨⟩
  exact ⟨b, rfl, h, rfl⟩

/-- An action that fails entails everything, as nothing is said of failures. -/
theorem entails_of_fails {x : Action σ ε α} (hx : ∀ s a, (x.run s).result ≠ .ok a)
    (y : Action σ ε β) : x.Entails R y :=
  fun s a h => absurd h (hx s a)

theorem entails_report (e f : Event) : (report e : Action σ ε Unit).Entails Eq (report f) :=
  fun _ a _ => ⟨a, rfl, rfl, rfl⟩

/-- What is only reported before an action changes nothing of its success. -/
theorem entails_report_bind {x : Action σ ε α} {y : Action σ ε β} (e : Event) (h : x.Entails R y) :
    (report e >>= fun _ => x).Entails R y :=
  fun s a hx => h s a hx

/-- **Sequence.**  Success goes through both actions, so that it is entailed one after the other.  The
second action begins with the same store on both sides. -/
theorem entails_bind {x : Action σ ε α} {y : Action σ ε β} {f : α → Action σ ε α'}
    {g : β → Action σ ε β'} (hxy : x.Entails R y) (hfg : ∀ a b, R a b → (f a).Entails S (g b)) :
    (x >>= f).Entails S (y >>= g) := by
  intro s c h
  obtain ⟨a, hx, hf⟩ := result_bind.mp h
  obtain ⟨b, hy, hab, hstore⟩ := hxy s a hx
  obtain ⟨d, hg, hcd, hlast⟩ := hfg a b hab _ c hf
  rw [← hstore] at hg hlast
  refine ⟨d, result_bind.mpr ⟨b, hy, hg⟩, hcd, ?_⟩
  rw [store_bind hy, store_bind hx, hlast, hstore]

/-- What follows one action succeeds alike. -/
theorem entails_behind (x : Action σ ε α) {f : α → Action σ ε α'} {g : α → Action σ ε β'}
    (hfg : ∀ a, (f a).Entails S (g a)) : (x >>= f).Entails S (x >>= g) := by
  refine entails_bind (entails_refl x) ?_
  rintro a _ rfl
  exact hfg a

/-- Answers may be mapped on both sides, if related ones stay related. -/
theorem entails_map {x : Action σ ε α} {y : Action σ ε β} (f : α → α') (g : β → β')
    (hxy : x.Entails R y) (hfg : ∀ a b, R a b → S (f a) (g b)) :
    (f <$> x).Entails S (g <$> y) := by
  rw [map_eq_pure_bind, map_eq_pure_bind]
  exact entails_bind hxy fun a b hab => entails_pure (hfg a b hab)

/-- What follows an attempt is handed its result, and runs from the store that it left. -/
theorem run_attempt_bind (x : Action σ ε α) (f : Except ε α → Action σ ε' β) (s : σ) :
    ((x.attempt >>= f).run s).result = ((f (x.run s).result).run (x.run s).store).result ∧
      ((x.attempt >>= f).run s).store = ((f (x.run s).result).run (x.run s).store).store :=
  ⟨rfl, rfl⟩

/-- An attempt turns an error into a value, but what follows it may fail for that.  Invocations are of
this kind: after a rollback they hand the error on. -/
theorem entails_attempt_bind {x : Action σ ε α} {y : Action σ ε β} {f : Except ε α → Action σ ε' α'}
    {g : Except ε β → Action σ ε' β'} (hxy : x.Entails R y)
    (hok : ∀ a b, R a b → (f (.ok a)).Entails S (g (.ok b)))
    (herror : ∀ e s c, ((f (.error e)).run s).result ≠ .ok c) :
    (x.attempt >>= f).Entails S (y.attempt >>= g) := by
  intro s c h
  obtain ⟨hresult, hstore⟩ := run_attempt_bind x f s
  obtain ⟨hresult', hstore'⟩ := run_attempt_bind y g s
  rw [hresult] at h
  rw [hresult', hstore, hstore']
  cases hx : (x.run s).result with
  -- what follows fails as well, so there was no success
  | error e =>
    rw [hx] at h
    exact absurd h (herror e _ c)
  | ok a =>
    rw [hx] at h
    obtain ⟨b, hy, hab, hsame⟩ := hxy s a hx
    rw [hy, hsame]
    exact hok a b hab _ c h

/-- **Invocations** that succeed have committed, so only what their bodies do when they succeed
matters. -/
theorem entails_atomically [Store σ] [StoreFailure ε] {x : Action σ ε α} {y : Action σ ε β}
    (hxy : x.Entails R y) : (atomically x).Entails R (atomically y) := by
  unfold atomically
  apply entails_behind
  intro _
  refine entails_attempt_bind hxy (fun a b hab => ?_) (fun e s c h => ?_)
  · apply entails_behind
    intro _
    exact entails_pure hab
  -- a body that fails is abandoned, which ends in its error or in one of the store
  · obtain ⟨_, -, hfail⟩ := result_bind.mp h
    cases hfail

end Action

namespace Ledger

/-! ## Operations -/

/-- A page within another one: as far along, and some of the records, in order. -/
structure Page.Within (page other : Page) : Prop where
  bookmark : page.bookmark = other.bookmark
  records : page.records.Sublist other.records

/-- A reply within another one is the same, but that a page may show fewer records. -/
inductive Reply.Within : Reply → Reply → Prop
  | done : Within .done .done
  | record (record : Record) : Within (.record record) (.record record)
  | page {page other : Page} : Page.Within page other → Within (.page page) (.page other)

/-- A request that is permitted is judged without a report, so that the judgement can be left out of
what follows it. -/
theorem judge_of_permits {σ : Type} {caller : Caller} {name : String} {request : Request}
    (hname : Presents caller name) (h : Permits name request) :
    (judge ⟨caller, .rbac⟩ request : Action σ LedgerError Role) = pure (.ofName name) := by
  have hcheck : Mode.rbac.check (.ofName name) request = .allow :=
    (Mode.rbac.check_ofName name request).mpr h
  unfold judge authorize
  rw [callerRole_of_presents hname]
  simp only [ofExcept_ok, pure_bind, hcheck]

/-- A request that is not permitted is refused, whatever would follow it and whatever is stored. -/
theorem judge_of_not_permits {σ α : Type} {caller : Caller} {name : String} {request : Request}
    (hname : Presents caller name) (h : ¬Permits name request) (f : Role → Action σ LedgerError α)
    (s : σ) (a : α) : ((judge ⟨caller, .rbac⟩ request >>= f).run s).result ≠ .ok a := by
  have hdenied : Mode.rbac.check (.ofName name) request = .deny _ := check_of_not_allows h
  unfold judge authorize
  rw [callerRole_of_presents hname]
  simp only [ofExcept_ok, pure_bind, hdenied]
  rintro ⟨⟩

/-- Both callers present a name, and that of the first one is below that of the second one. -/
def Outranked (lower upper : Caller) : Prop :=
  ∃ x y, Presents lower x ∧ Presents upper y ∧ Relation.TransGen Below x y

/-- What follows a judgement has to be entailed for the roles of two such names.  If the lower one is
refused, there is no success to be entailed. -/
theorem entails_judge_bind {σ α β : Type} {R : α → β → Prop} {lower upper : Caller}
    (hrank : Outranked lower upper) (request : Request) {f : Role → Action σ LedgerError α}
    {g : Role → Action σ LedgerError β}
    (h : ∀ x y, Relation.TransGen Below x y → (f (.ofName x)).Entails R (g (.ofName y))) :
    (judge ⟨lower, .rbac⟩ request >>= f).Entails R (judge ⟨upper, .rbac⟩ request >>= g) := by
  obtain ⟨x, y, hlower, hupper, hbelow⟩ := hrank
  by_cases hx : Permits x request
  · have hy : Permits y request := hx.raise hbelow
    rw [judge_of_permits hlower hx, judge_of_permits hupper hy, pure_bind, pure_bind]
    exact h x y hbelow
  · exact entails_of_fails (judge_of_not_permits hlower hx f) _

/-- Commands that answer nothing are entailed as their actions are. -/
theorem entails_done {σ : Type} {x y : Action σ LedgerError Unit} (h : x.Entails Eq y) :
    (done x).Entails Reply.Within (done y) :=
  entails_map _ _ h fun _ _ _ => .done

section

variable {σ : Type} [Store σ] {lower upper : Caller}

theorem entails_writeSeeds (hrank : Outranked lower upper) :
    (writeSeeds ⟨lower, .rbac⟩ : Action σ LedgerError Unit).Entails Eq
      (writeSeeds ⟨upper, .rbac⟩) := by
  apply entails_judge_bind hrank
  intro x y _
  apply entails_behind
  intro _
  exact entails_report _ _

/-- A record that a role may store anew is stored alike for the one above.  Both find the same keys
taken. -/
theorem entails_storeNew (hrank : Outranked lower upper) (record : Record) :
    (storeNew ⟨lower, .rbac⟩ record : Action σ LedgerError Unit).Entails Eq
      (storeNew ⟨upper, .rbac⟩ record) := by
  apply entails_judge_bind hrank
  intro x y _
  apply entails_behind
  -- whether the key is taken both see alike
  intro found
  cases found with
  | true => exact entails_refl _
  | false =>
    apply entails_behind
    intro _
    exact entails_report _ _

/-- The same with validation, which does not ask who submits and is therefore passed by both or by
neither. -/
theorem entails_create (hrank : Outranked lower upper) (record : Record) :
    (create ⟨lower, .rbac⟩ record : Action σ LedgerError Unit).Entails Eq
      (create ⟨upper, .rbac⟩ record) := by
  apply entails_behind
  intro _
  exact entails_atomically (entails_storeNew hrank record)

/-- A record that a role may read is read alike by the one above: it is looked up before it is
judged. -/
theorem entails_fetch (hrank : Outranked lower upper) (uuid : String) :
    (fetch ⟨lower, .rbac⟩ uuid : Action σ LedgerError Record).Entails Eq
      (fetch ⟨upper, .rbac⟩ uuid) := by
  apply entails_behind
  intro record
  apply entails_judge_bind hrank
  intro x y _
  exact entails_refl _

/-- A record that a role may replace is replaced alike by the one above: the stored record is judged,
and whoever of the two is higher may update what the other may. -/
theorem entails_replace (hrank : Outranked lower upper) (record : Record) :
    (replace ⟨lower, .rbac⟩ record : Action σ LedgerError Unit).Entails Eq
      (replace ⟨upper, .rbac⟩ record) := by
  apply entails_behind
  intro stored
  apply entails_judge_bind hrank
  intro x y _
  -- the roles are only named in the report, so that the rest succeeds alike
  have hrest : ((do putRecord record; .report (.updated record.uuid (.ofName x))) :
      Action σ LedgerError Unit).Entails Eq
        (do putRecord record; .report (.updated record.uuid (.ofName y))) :=
    entails_behind _ fun _ => entails_report _ _
  by_cases hv : rewritesVisibility stored record
  · simp only [hv, if_true]
    exact entails_bind (entails_report _ _) fun _ _ _ => hrest
  · simp only [hv]
    exact hrest

/-- A record that a role may remove is removed alike by the one above. -/
theorem entails_remove (hrank : Outranked lower upper) (uuid : String) :
    (remove ⟨lower, .rbac⟩ uuid : Action σ LedgerError Unit).Entails Eq
      (remove ⟨upper, .rbac⟩ uuid) := by
  apply entails_behind
  intro found
  cases found with
  | false => exact entails_refl _
  | true =>
    apply entails_judge_bind hrank
    intro x y _
    apply entails_behind
    intro _
    exact entails_report _ _

/-- Both roles sift the same entries.  A record is shown to both, or withheld from both, or withheld
from the lower one only. -/
theorem entails_sift {x y : String} (hbelow : Relation.TransGen Below x y) (es : List Entry) :
    (sift .rbac (.ofName x) es : Action σ LedgerError _).Entails
      (fun found found' => found.1.Sublist found'.1) (sift .rbac (.ofName y) es) := by
  induction es with
  | nil => exact entails_pure (List.Sublist.refl _)
  | cons e es ih =>
    apply entails_behind
    intro e
    apply entails_behind
    intro record
    have hraise : Mode.rbac.canRead (.ofName x) record → Mode.rbac.canRead (.ofName y) record := by
      rw [Mode.canRead_ofName, Mode.canRead_ofName]
      exact fun h => Permits.raise hbelow h
    by_cases hx : Mode.rbac.canRead (.ofName x) record
    · simp only [hx, hraise hx, if_true]
      exact entails_bind ih fun _ _ h => entails_pure (h.cons_cons record)
    -- the first role withholds the record and reports it, be it shown to the second role or not
    · by_cases hy : Mode.rbac.canRead (.ofName y) record
      · simp only [hx, hy, if_true]
        apply entails_report_bind
        exact entails_bind ih fun _ _ h => entails_pure (h.cons record)
      · simp only [hx, hy]
        refine entails_bind (entails_report _ _) fun _ _ _ => ?_
        exact entails_bind ih fun _ _ h => entails_pure h

/-- A page that a role may list is listed by the one above, with the same records and perhaps more
between them.  Both are cut at the same keys, for the cut does not ask who lists. -/
theorem entails_browse (hrank : Outranked lower upper) (size : Int) (bookmark : String) :
    (browse ⟨lower, .rbac⟩ size bookmark : Action σ LedgerError Page).Entails Page.Within
      (browse ⟨upper, .rbac⟩ size bookmark) := by
  apply entails_judge_bind hrank
  intro x y hbelow
  by_cases hs : size ≤ 0
  · -- a size that is refused is refused to both, and nothing is entailed
    simp only [hs, if_true]
    exact entails_of_fails (fun s a => by rintro ⟨⟩) _
  · simp only [hs, if_false]
    apply entails_behind
    intro page
    apply entails_bind (entails_sift hbelow page.entries)
    rintro ⟨shown, withheld⟩ ⟨shown', withheld'⟩ hshown
    refine entails_bind (entails_report _ _) fun _ _ _ => ?_
    exact entails_pure ⟨rfl, hshown⟩

/-- **One step.**  A command that succeeds for a caller succeeds for every caller above, and leaves the
same store. -/
theorem entails_run (hrank : Outranked lower upper) (command : Command) :
    (command.run ⟨lower, .rbac⟩ : Action σ LedgerError Reply).Entails Reply.Within
      (command.run ⟨upper, .rbac⟩) := by
  cases command with
  | init => exact entails_done (entails_atomically (entails_writeSeeds hrank))
  | create record => exact entails_done (entails_create hrank record)
  | createText text =>
    exact entails_done (entails_behind _ fun record => entails_create hrank record)
  | read uuid =>
    refine entails_map _ _ (entails_atomically (entails_fetch hrank uuid)) ?_
    rintro record _ rfl
    exact .record record
  | update record => exact entails_done (entails_atomically (entails_replace hrank record))
  | updateText text =>
    refine entails_done (entails_behind _ fun record => ?_)
    exact entails_atomically (entails_replace hrank record)
  | delete uuid => exact entails_done (entails_atomically (entails_remove hrank uuid))
  | list size bookmark =>
    exact entails_map _ _ (entails_atomically (entails_browse hrank size bookmark)) fun _ _ => .page

end

/-! ## Updates -/

/-- The command submits the record as an update. -/
inductive Command.Updates : Command → Record → Prop
  | record (record : Record) : Updates (.update record) record
  | text {text : String} {record : Record} : Record.parse text = .ok record →
    Updates (.updateText text) record

section

variable {m : KeyMap Bytes} {session : Session} {command : Command} {record : Record}

/-- An update is answered as the record that it submits. -/
theorem Command.Updates.answer (h : command.Updates record) :
    command.answer session m = (replaced session m record).map (.done, ·) := by
  cases h with
  | record record => rfl
  | text hparse =>
    rw [Command.answer, parseRecord, hparse]
    rfl

/-- Who may update a record may read it: every row that permits an update permits the read of the same
record. -/
theorem allows_read_of_update {mode : Mode} {name : String} {stored : Record}
    (h : mode.Allows name (.update stored)) : mode.Allows name (.read stored) := by
  cases mode with
  | openAccess => trivial
  | rbac =>
    cases h with
    | update hupdate => exact .read (mayRead_of_mayUpdate hupdate)

/-- What is replaced was found, and so it can be read. -/
theorem found_of_replaced {m' : KeyMap Bytes} (h : replaced session m record = .ok m') :
    ∃ stored, found session m record.uuid = .ok stored := by
  obtain ⟨stored, hstored, h⟩ := bind_eq_ok.mp h
  obtain ⟨role, hrole, -⟩ := bind_eq_ok.mp h
  have hread : admitted session (.read stored) = .ok role :=
    admitted_of_imp (fun _ => allows_read_of_update) hrole
  refine ⟨stored, bind_eq_ok.mpr ⟨stored, hstored, ?_⟩⟩
  rw [hread]
  rfl

end

/-- **Privilege.**  On every store, whatever it holds and whichever of its calls it refuses: what
succeeds for a caller succeeds for every caller above, with the same answer, but that a page may show
more records, and with the same store behind it.  And where an update of a UUID would succeed, whoever
calls and under whatever mode, so would reading it. -/
theorem privilege_ordered {σ : Type} [Store σ] (s : σ) :
    (∀ (lower upper : Caller) (command : Command) (reply : Reply), Outranked lower upper →
      ((command.run ⟨lower, .rbac⟩).run s).result = .ok reply →
      ∃ reply', ((command.run ⟨upper, .rbac⟩).run s).result = .ok reply' ∧ reply.Within reply' ∧
        ((command.run ⟨upper, .rbac⟩).run s).store = ((command.run ⟨lower, .rbac⟩).run s).store) ∧
    ∀ [LawfulStore σ] (m : KeyMap Bytes) (session : Session) (command : Command) (record : Record)
      (reply : Reply), Holds s m → command.Updates record →
      ((command.run session).run s).result = .ok reply →
      ∃ stored, ((read session record.uuid).run s).result = .ok stored := by
  constructor
  · intro lower upper command reply hrank hreply
    exact entails_run hrank command s reply hreply
  · intro _ m session command record reply hs hupdates hreply
    rw [(run_answer hs session command).1, hupdates.answer, map_eq_ok] at hreply
    obtain ⟨answer, hanswer, -⟩ := hreply
    obtain ⟨m', hreplaced, -⟩ := map_eq_ok.mp hanswer
    obtain ⟨stored, hfound⟩ := found_of_replaced hreplaced
    exact ⟨stored, (run_read hs session record.uuid).trans hfound⟩

/-- Of the two seeds the tactical unit is shown the second one, the head, two ranks above, is shown what
it is shown, and the special operations unit, which may replace the second seed, can read it. -/
theorem seeds_ranked :
    let s : MemoryStore := ⟨stored (Record.seeds.foldl Registry.enter .empty), none⟩
    let unit : Session := ⟨.ofRole "TacticalUnit", .rbac⟩
    let head : Session := ⟨.ofRole "HeadOfOperations", .rbac⟩
    let special : Session := ⟨.ofRole "SpecialOperationsUnit", .rbac⟩
    let page : Page := ⟨[Record.seeds[1]], ""⟩
    (((Command.list 2 "").run unit).run s).result = .ok (.page page) ∧
    (∃ reply, (((Command.list 2 "").run head).run s).result = .ok reply ∧
      Reply.Within (.page page) reply) ∧
    (((Command.update Record.seeds[1]).run special).run s).result = .ok .done ∧
    ∃ stored, ((read special "67890").run s).result = .ok stored := by
  intro s unit head special page
  let seeds : Registry := Record.seeds.foldl Registry.enter .empty
  have hfiled : Filed seeds := filed_empty.enterAll Record.seeds
  have hs : Holds s (stored seeds) := (MemoryStore.holds_iff _ _).mpr rfl
  have hpage : (((Command.list 2 "").run unit).run s).result = .ok (.page page) := by
    rw [(run_answer hs unit _).1, answer_stored hfiled]
    rfl
  have hupdate : (((Command.update Record.seeds[1]).run special).run s).result = .ok .done := by
    rw [(run_answer hs special _).1, answer_stored hfiled]
    rfl
  have hbelow : Relation.TransGen Below "TacticalUnit" "HeadOfOperations" :=
    .tail (.single .tactical) .special
  have hrank : Outranked unit.caller head.caller := ⟨_, _, by rfl, by rfl, hbelow⟩
  obtain ⟨hraised, hread⟩ := privilege_ordered s
  obtain ⟨reply, hreply, hwithin, -⟩ := hraised _ _ _ _ hrank hpage
  have huuid : Record.seeds[1].uuid = "67890" := by rfl
  have hstored := hread _ _ _ _ _ hs (.record Record.seeds[1]) hupdate
  rw [huuid] at hstored
  exact ⟨hpage, ⟨reply, hreply, hwithin⟩, hupdate, hstored⟩

end Ledger
end ThreatLedger
