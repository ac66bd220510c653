/-
  The log tells nothing of the contents of records.

  1. **Contents** — the description, the timestamp, the CID, the vault key and the hash of a record are
     its contents.  Two records are alike if they differ in those only, and are empty in the same ones.
     Whether a record is complete, who may see it and who may replace it is the same of both.
  2. **Parts** — what is loaded, stored and sifted from stores with alike records under the same keys is
     alike, and reported in the same form.
  3. **Bodies** — so is what each operation does.  Both records of an update that rewrites visibility are
     reported by the fields that they share.
  4. **Runs** — by induction, runs on such stores, with alike records submitted, have the same log and
     alike answers (`log_independent_of_contents`).
-/
import ThreatLedger.Proofs.Ledger.Bodies
import ThreatLedger.Proofs.Record.RoundTrip
import ThreatLedger.Proofs.Store.Backends
import ThreatLedger.Proofs.Store.Mirroring

open ThreatLedger.Action

namespace ThreatLedger

/-! ## Contents -/

namespace Record

/-- Two records that differ in their contents only, and are empty in the same fields. -/
structure Alike (a b : Record) : Prop where
  uuid : a.uuid = b.uuid
  sender : a.sender = b.sender
  access : a.access = b.access
  description : a.description.isEmpty = b.description.isEmpty
  timestamp : a.timestamp.isEmpty = b.timestamp.isEmpty
  cid : a.cid.isEmpty = b.cid.isEmpty
  vaultKey : a.vaultKey.isEmpty = b.vaultKey.isEmpty
  sha256 : a.sha256.isEmpty = b.sha256.isEmpty

theorem Alike.refl (a : Record) : a.Alike a := ⟨rfl, rfl, rfl, rfl, rfl, rfl, rfl, rfl⟩

variable {a b : Record} (h : a.Alike b)
include h

/-- Records that are alike have one UUID, and so one key. -/
theorem Alike.key_eq : a.key = b.key := congrArg keyOf h.uuid

/-- What is missing is a matter of which fields are empty, and the contents that may differ are empty in
both records or in neither. -/
theorem Alike.missingFields_eq : a.missingFields = b.missingFields := by
  have hempty : a.requiredFields.map (fun f => (f.1, f.2.isEmpty))
      = b.requiredFields.map fun f => (f.1, f.2.isEmpty) := by
    simp only [requiredFields, List.map, h.uuid, h.sender, h.description, h.timestamp, h.cid,
      h.vaultKey, h.sha256]
  have hnames : ∀ r : Record, r.missingFields
      = ((r.requiredFields.map fun f => (f.1, f.2.isEmpty)).filter (·.2)).map (·.1) := by
    intro r
    rw [missingFields, List.filter_map, List.map_map]
    rfl
  rw [hnames, hnames, hempty]

/-- Who may read a record depends on its sender and its access list, which records that are alike
share. -/
theorem Alike.mayRead_eq (role : Role) : role.mayRead a = role.mayRead b := by
  cases role <;> simp only [Role.mayRead, sentBy, grants, h.sender, h.access]

/-- Who may update a record depends on its sender and its access list as well. -/
theorem Alike.mayUpdate_eq (role : Role) : role.mayUpdate a = role.mayUpdate b := by
  cases role <;> simp only [Role.mayUpdate, sentBy, grants, h.sender, h.access]

/-- A read of either record is judged alike, with the same denial: a refusal names the UUID of the
record and nothing else of it. -/
theorem Alike.check_read_eq (mode : Mode) (role : Role) :
    mode.check role (.read a) = mode.check role (.read b) := by
  cases mode with
  | openAccess => rfl
  | rbac =>
    show (if role.mayRead a then _ else Decision.deny ⟨role, .read, some a.uuid⟩)
      = if role.mayRead b then _ else Decision.deny ⟨role, .read, some b.uuid⟩
    rw [h.mayRead_eq, h.uuid]

/-- An update of either record is judged alike, with the same denial. -/
theorem Alike.check_update_eq (mode : Mode) (role : Role) :
    mode.check role (.update a) = mode.check role (.update b) := by
  cases mode with
  | openAccess => rfl
  | rbac =>
    show (if role.mayUpdate a then _ else Decision.deny ⟨role, .update, some a.uuid⟩)
      = if role.mayUpdate b then _ else Decision.deny ⟨role, .update, some b.uuid⟩
    rw [h.mayUpdate_eq, h.uuid]

theorem Alike.canRead_eq (mode : Mode) (role : Role) : mode.canRead role a = mode.canRead role b := by
  rw [Mode.canRead, Mode.canRead, h.check_read_eq]

end Record

/-- Bytes that are read as alike records. -/
def AlikeBytes (_key : String) (v w : Bytes) : Prop :=
  ∃ a b, Record.decode v = .ok a ∧ Record.decode w = .ok b ∧ a.Alike b

/-- The encodings of records that are alike are alike, since each is read back as its record. -/
theorem Record.Alike.encode {a b : Record} (h : a.Alike b) (key : String) :
    AlikeBytes key a.encode b.encode :=
  ⟨a, b, a.decode_encode, b.decode_encode, h⟩

namespace Ledger

open ReferenceStore

/-- Reference stores that have the same keys, and alike records under them. -/
abbrev AlikeStores : ReferenceStore → ReferenceStore → Prop := Related AlikeBytes

/-! ## Parts -/

section

variable {a b : Record} (h : a.Alike b)
include h

theorem judge_read_eq {σ : Type} (session : Session) :
    (judge session (.read a) : Action σ LedgerError Role) = judge session (.read b) := by
  have hrefusal : ∀ denial, refusal denial (.read a) = refusal denial (.read b) := fun denial =>
    congrArg (LedgerError.forbidden _ _) h.uuid
  unfold judge authorize
  simp only [h.check_read_eq, hrefusal]

theorem judge_update_eq {σ : Type} (session : Session) :
    (judge session (.update a) : Action σ LedgerError Role) = judge session (.update b) := by
  have hrefusal : ∀ denial, refusal denial (.update a) = refusal denial (.update b) := fun denial =>
    congrArg (LedgerError.forbidden _ _) h.uuid
  unfold judge authorize
  simp only [h.check_update_eq, hrefusal]

/-- Storing either record leaves stores that are alike: both have the same key, and the encodings are
alike as bytes. -/
theorem mirrors_putRecord : Mirrors AlikeStores Eq
    (putRecord a : Action ReferenceStore LedgerError Unit) (putRecord b) := by
  unfold putRecord
  rw [h.key_eq]
  exact mirrors_of_tracks (tracks_lift (tracks_put (h.encode _)))

end

/-- A judgement asks the store nothing, so it is the same on both, in its events as in its answer. -/
theorem mirrors_judge (session : Session) (request : Request) : Mirrors AlikeStores Eq
    (judge session request : Action ReferenceStore LedgerError Role) (judge session request) := by
  refine mirrors_of_tracks ?_
  unfold judge
  refine tracks_bind (tracks_ofExcept _) fun role => ?_
  exact tracks_bind (tracks_authorize _ _ _) fun _ => tracks_pure role

theorem mirrors_isStored (key : String) : Mirrors AlikeStores Eq
    (isStored key : Action ReferenceStore LedgerError Bool) (isStored key) :=
  mirrors_bind (mirrors_lift (mirrors_get key)) fun _ _ hvw => mirrors_pure (isSome_eq_of_rel hvw)

/-- Alike bytes are decoded as alike records, whatever key an error would have named: both hold a
record, so there is none. -/
theorem mirrors_decodeStored {key key' : String} {v w : Bytes} (h : AlikeBytes key v w) :
    Mirrors AlikeStores Record.Alike
      (.ofExcept (decodeStored key' v) : Action ReferenceStore LedgerError Record)
      (.ofExcept (decodeStored key' w)) := by
  obtain ⟨a, b, hv, hw, hab⟩ := h
  refine mirrors_ofExcept ?_
  rw [decodeStored, decodeStored, hv, hw]
  exact .ok hab

/-- What is loaded from stores that are alike is alike, or fails alike: the same keys are stored in
both. -/
theorem mirrors_load (uuid : String) : Mirrors AlikeStores Record.Alike
    (load uuid : Action ReferenceStore LedgerError Record) (load uuid) := by
  refine mirrors_bind (mirrors_lift (mirrors_get _)) ?_
  rintro _ _ (hvw | _)
  · exact mirrors_decodeStored hvw
  · exact mirrors_fail _

/-- Records that are shown, and how many are withheld. -/
structure AlikeShown (x y : List Record × Nat) : Prop where
  shown : List.Forall₂ Record.Alike x.1 y.1
  withheld : x.2 = y.2

/-- A withheld record is reported by its UUID, and alike records are withheld from the same roles.  By
induction on the entries of the two pages. -/
theorem mirrors_sift (mode : Mode) (role : Role) {es fs : List Entry}
    (h : List.Forall₂ (KeyMap.RelatedEntry AlikeBytes) es fs) :
    Mirrors AlikeStores AlikeShown (sift mode role es : Action ReferenceStore LedgerError _)
      (sift mode role fs) := by
  induction h with
  | nil => exact mirrors_pure ⟨.nil, rfl⟩
  | cons hef _ ih =>
    refine mirrors_bind (mirrors_lift (mirrors_entry hef)) fun e f hef => ?_
    obtain ⟨hkey, hvw⟩ := hef
    rw [hkey]
    refine mirrors_bind (mirrors_decodeStored hvw) fun a b hab => ?_
    -- both records are shown or both are withheld, since alike records have the same senders and access
    -- lists
    rw [hab.canRead_eq]
    split
    · exact mirrors_bind ih fun _ _ h => mirrors_pure ⟨.cons hab h.shown, h.withheld⟩
    · rw [hab.uuid]
      refine mirrors_behind (mirrors_report rfl) fun _ => mirrors_bind ih fun _ _ h => ?_
      exact mirrors_pure ⟨h.shown, congrArg (· + 1) h.withheld⟩

/-! ## Bodies -/

section

variable {α β : Type} {A : α → β → Prop} (session : Session)

theorem mirrors_writeSeeds : Mirrors AlikeStores Eq
    (writeSeeds session : Action ReferenceStore LedgerError Unit) (writeSeeds session) := by
  have hput : ∀ record, Tracks AlikeStores Never
      (putRecord record : Action ReferenceStore LedgerError Unit) (putRecord record) :=
    fun record => tracks_lift (tracks_put ((Record.Alike.refl record).encode _))
  exact mirrors_of_tracks (tracks_writeSeeds hput session)

/-- A new record is reported by its UUID and the role of its creator, and not by what it says. -/
theorem mirrors_storeNew {a b : Record} (h : a.Alike b) : Mirrors AlikeStores Eq
    (storeNew session a : Action ReferenceStore LedgerError Unit) (storeNew session b) := by
  unfold storeNew
  rw [h.key_eq, h.uuid]
  refine mirrors_behind (mirrors_judge session _) fun role => ?_
  refine mirrors_behind (mirrors_isStored _) fun found => ?_
  cases found with
  | true => exact mirrors_fail _
  | false => exact mirrors_behind (mirrors_putRecord h) fun _ => mirrors_report rfl

/-- What is read is alike, and it is shown or refused alike; a refusal names the UUID and no other
field. -/
theorem mirrors_fetch (uuid : String) : Mirrors AlikeStores Record.Alike
    (fetch session uuid : Action ReferenceStore LedgerError Record) (fetch session uuid) := by
  refine mirrors_bind (mirrors_load uuid) fun a b hab => ?_
  rw [judge_read_eq hab]
  exact mirrors_behind (mirrors_judge session _) fun _ => mirrors_pure hab

/-- Whether an update rewrites visibility depends on senders and access lists alone. -/
theorem rewritesVisibility_eq {stored stored' a b : Record} (hstored : stored.Alike stored')
    (h : a.Alike b) : rewritesVisibility stored a = rewritesVisibility stored' b := by
  unfold rewritesVisibility
  rw [hstored.sender, hstored.access, h.sender, h.access]

/-- The report of a rewritten visibility shows the sender and the access list of the new record. -/
theorem visibilityRewritten_form {a b : Record} (h : a.Alike b) (role : Role) :
    (Event.visibilityRewritten a role).form = (Event.visibilityRewritten b role).form := by
  simp only [Event.form, Event.severity, Event.message, Event.fields, h.uuid, h.sender, h.access]

/-- An update is reported by its UUID, the role, and the visibility that it rewrites. -/
theorem mirrors_replace {a b : Record} (h : a.Alike b) : Mirrors AlikeStores Eq
    (replace session a : Action ReferenceStore LedgerError Unit) (replace session b) := by
  unfold replace
  rw [h.uuid]
  refine mirrors_bind (mirrors_load _) fun stored stored' hstored => ?_
  rw [judge_update_eq hstored, rewritesVisibility_eq hstored h]
  refine mirrors_behind (mirrors_judge session _) fun role => ?_
  -- what follows the warning is the same whether or not there is one
  have rest : Mirrors AlikeStores Eq
      (putRecord a >>= fun _ => .report (.updated b.uuid role) : Action ReferenceStore LedgerError Unit)
      (putRecord b >>= fun _ => .report (.updated b.uuid role)) :=
    mirrors_behind (mirrors_putRecord h) fun _ => mirrors_report rfl
  split
  · exact mirrors_behind (mirrors_report (visibilityRewritten_form h role)) fun _ => rest
  · exact rest

/-- A removal is reported by its UUID and the role.  The record that is removed is not decoded. -/
theorem mirrors_remove (uuid : String) : Mirrors AlikeStores Eq
    (remove session uuid : Action ReferenceStore LedgerError Unit) (remove session uuid) := by
  refine mirrors_behind (mirrors_isStored _) fun found => ?_
  cases found with
  | false => exact mirrors_fail _
  | true =>
    refine mirrors_behind (mirrors_judge session _) fun role => ?_
    exact mirrors_behind (mirrors_of_tracks (tracks_lift (tracks_delete _))) fun _ => mirrors_report rfl

/-- Pages with alike records, that go on at the same key. -/
structure AlikePage (p q : Page) : Prop where
  records : List.Forall₂ Record.Alike p.records q.records
  bookmark : p.bookmark = q.bookmark

/-- The summary of a page counts the records that are shown and withheld, and these are as many on both
stores. -/
theorem mirrors_browse (size : Int) (bookmark : String) : Mirrors AlikeStores AlikePage
    (browse session size bookmark : Action ReferenceStore LedgerError Page)
    (browse session size bookmark) := by
  refine mirrors_behind (mirrors_judge session _) fun role => ?_
  split
  · exact mirrors_fail _
  · refine mirrors_bind (mirrors_lift (mirrors_scan _)) fun p q hpq => ?_
    -- whether there is another page depends on the bookmark, and that is one for both
    have hmore : p.hasMore = q.hasMore := congrArg (decide <| · ≠ "") hpq.bookmark
    refine mirrors_bind (mirrors_sift session.mode role hpq.entries) ?_
    rintro ⟨xs, withheld⟩ ⟨ys, _⟩ ⟨hshown, rfl⟩
    dsimp only
    rw [hmore, hshown.length_eq]
    exact mirrors_behind (mirrors_report rfl) fun _ => mirrors_pure ⟨hshown, hpq.bookmark⟩

end

/-! ## Runs -/

/-- Commands with alike records. -/
inductive Command.Alike : Command → Command → Prop
  | same (command : Command) : Alike command command
  | create {a b} : a.Alike b → Alike (.create a) (.create b)
  | update {a b} : a.Alike b → Alike (.update a) (.update b)

/-- Replies with alike records. -/
inductive Reply.Alike : Reply → Reply → Prop
  | done : Alike .done .done
  | record {a b} : a.Alike b → Alike (.record a) (.record b)
  | page {p q} : AlikePage p q → Alike (.page p) (.page q)

/-- Which required fields are empty is the same for records that are alike, so they pass validation
together. -/
theorem validate_eq {a b : Record} (h : a.Alike b) : validate a = validate b := by
  unfold validate
  rw [h.missingFields_eq]

theorem mirrors_done {x y : Action ReferenceStore LedgerError Unit} (h : Mirrors AlikeStores Eq x y) :
    Mirrors AlikeStores Reply.Alike (done x) (done y) :=
  mirrors_map h fun _ _ _ => .done

theorem mirrors_create (session : Session) {a b : Record} (h : a.Alike b) : Mirrors AlikeStores Eq
    (create session a : Action ReferenceStore LedgerError Unit) (create session b) := by
  unfold create
  rw [validate_eq h]
  refine mirrors_behind (mirrors_of_tracks (tracks_ofExcept _)) fun _ => ?_
  exact ReferenceStore.mirrors_atomically (mirrors_storeNew session h)

theorem mirrors_update (session : Session) {a b : Record} (h : a.Alike b) : Mirrors AlikeStores Eq
    (update session a : Action ReferenceStore LedgerError Unit) (update session b) :=
  ReferenceStore.mirrors_atomically (mirrors_replace session h)

/-- **Commands** with alike records are mirrored on stores with alike records.  Each is one invocation,
behind a validation that asks which fields are empty. -/
theorem mirrors_run (session : Session) {c d : Command} (h : c.Alike d) :
    Mirrors AlikeStores Reply.Alike (c.run session : Action ReferenceStore LedgerError Reply)
      (d.run session) := by
  cases h with
  | create hab => exact mirrors_done (mirrors_create session hab)
  | update hab => exact mirrors_done (mirrors_update session hab)
  -- one command on both sides, whose record is alike to itself
  | same =>
    have parse : ∀ text, Mirrors AlikeStores Eq
        (.ofExcept (parseRecord text) : Action ReferenceStore LedgerError Record)
        (.ofExcept (parseRecord text)) := fun text => mirrors_of_tracks (tracks_ofExcept _)
    cases c with
    | init => exact mirrors_done (ReferenceStore.mirrors_atomically (mirrors_writeSeeds session))
    | create record => exact mirrors_done (mirrors_create session (.refl record))
    | createText text =>
      exact mirrors_done (mirrors_behind (parse text) fun record => mirrors_create session (.refl record))
    | read uuid =>
      exact mirrors_map (ReferenceStore.mirrors_atomically (mirrors_fetch session uuid))
        fun _ _ => .record
    | update record => exact mirrors_done (mirrors_update session (.refl record))
    | updateText text =>
      exact mirrors_done (mirrors_behind (parse text) fun record => mirrors_update session (.refl record))
    | delete uuid => exact mirrors_done (ReferenceStore.mirrors_atomically (mirrors_remove session uuid))
    | list size bookmark =>
      exact mirrors_map (ReferenceStore.mirrors_atomically (mirrors_browse session size bookmark))
        fun _ _ => .page

section

variable {σ τ : Type} [Store σ] [LawfulStore σ] [Store τ] [LawfulStore τ]

/-- Stores that have the same keys and alike records under them, in their entries and in those that their
open invocations go back to, if they have any; and their scans are reported under the same namespace. -/
def DifferInContents (s : σ) (t : τ) : Prop := ∃ v w, Shows s v ∧ Shows t w ∧ AlikeStores v w

/-- **One step.**  Each store answers as the reference store that it shows, and those mirror each
other. -/
theorem DifferInContents.step {s : σ} {t : τ} (h : DifferInContents s t) (session : Session)
    {c d : Command} (hcd : c.Alike d) :
    ((c.run session).run s).Mirrors DifferInContents Reply.Alike ((d.run session).run t) := by
  obtain ⟨v, w, hs, ht, hvw⟩ := h
  have hsv := (tracks_run LawfulStore.simulates session c).matches hs
  have htw := (tracks_run LawfulStore.simulates session d).matches ht
  have hm := mirrors_run session hcd v w hvw
  refine ⟨?_, ?_, _, _, hsv.store, htw.store, hm.store⟩
  · rw [hsv.result, htw.result]
    exact hm.result
  · rw [hsv.events, htw.events]
    exact hm.events

/-- **Secrecy of the log.**  Take two stores with the same keys and alike records under them, and two runs
of the same commands by the same callers under the same modes, with alike records submitted.  Step by step
the runs have the same log, by severities, messages and fields; they fail with the same errors, and answer
with alike records. -/
theorem log_independent_of_contents (s : σ) (t : τ) (h : DifferInContents s t)
    (steps others : List (Session × Command))
    (hsteps : List.Forall₂ (fun a b => a.1 = b.1 ∧ a.2.Alike b.2) steps others) :
    List.Forall₂ (Outcome.Mirrors DifferInContents Reply.Alike) (outcomes s steps)
      (outcomes t others) := by
  induction hsteps generalizing s t with
  | nil => exact .nil
  | @cons step other steps others hstep _ ih =>
    obtain ⟨session, c⟩ := step
    obtain ⟨_, d⟩ := other
    obtain ⟨rfl, hcd⟩ := hstep
    have hm := h.step session hcd
    exact .cons hm (ih _ _ hm.store)

end

/-- A record of the intelligence unit for the tactical unit. -/
def memo (description : String) : Record :=
  ⟨"1", description, "2024-05-01T10:00:00Z", "IntelligenceUnit", "cid", "kv", "hash", ["TacticalUnit"]⟩

/-- A store with one record. -/
def storeOf (record : Record) : MemoryStore :=
  ⟨KeyMap.empty.insert record.key record.encode, none⟩

/-- The tactical unit reads and lists what is there; the head withdraws it from the unit, which is then
told nothing of it. -/
def withdrawal (record : Record) : List (Session × Command) :=
  [(⟨.ofRole "TacticalUnit", .rbac⟩, .read "1"), (⟨.ofRole "TacticalUnit", .rbac⟩, .list 5 ""),
    (⟨.ofRole "HeadOfOperations", .rbac⟩, .update { record with access := [] }),
    (⟨.ofRole "TacticalUnit", .rbac⟩, .list 5 "")]

/-- The log does not tell what is described: two stores hold records that are described differently, and
reading, listing and withdrawing either leaves the same log. -/
theorem withdrawals_leave_one_log :
    memo "arrival at dawn" ≠ memo "at dusk" ∧
      List.Forall₂ (Outcome.Mirrors DifferInContents Reply.Alike)
        (outcomes (storeOf (memo "arrival at dawn")) (withdrawal (memo "arrival at dawn")))
        (outcomes (storeOf (memo "at dusk")) (withdrawal (memo "at dusk"))) := by
  have halike : (memo "arrival at dawn").Alike (memo "at dusk") :=
    ⟨rfl, rfl, rfl, rfl, rfl, rfl, rfl, rfl⟩
  have hempty : KeyMap.Related AlikeBytes .empty .empty := fun _ => .none
  have hstores : DifferInContents (storeOf (memo "arrival at dawn")) (storeOf (memo "at dusk")) :=
    ⟨_, _, rfl, rfl, hempty.insert (halike.encode _), .none, rfl⟩
  refine ⟨by decide, log_independent_of_contents _ _ hstores _ _ ?_⟩
  refine .cons ⟨rfl, .same _⟩ (.cons ⟨rfl, .same _⟩ (.cons ⟨rfl, .update ?_⟩ (.cons ⟨rfl, .same _⟩ .nil)))
  exact ⟨rfl, rfl, rfl, rfl, rfl, rfl, rfl, rfl⟩

end Ledger
end ThreatLedger
