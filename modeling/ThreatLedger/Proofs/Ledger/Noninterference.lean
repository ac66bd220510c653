/-
  What a caller may not read has no effect on it.

  1. **Veils** — two maps look the same to a name if they have the same keys, and under each key the
     same record, or two records that the name may not read.
  2. **Stores** — reference stores look the same with their saved copies, so that invocations begin
     and end alike.  A read may find different bytes in them, and what follows it has to be tracked
     for all that may be found.
  3. **Bodies** — who may update a record may read it, so a hidden record is neither shown nor
     replaced; what is said of it only names its UUID, which is in the key.
  4. **Runs** — by induction, on stores that look the same to a name, commands of its callers are
     answered and reported alike, and leave such stores behind (`hidden_records_noninterfering`).
-/
import ThreatLedger.Proofs.Ledger.Refinement
import ThreatLedger.Proofs.Store.Mirroring

open ThreatLedger.Action

namespace ThreatLedger

/-! ## Veils -/

/-- The bytes under a key are read as a record, and the key is that of its UUID. -/
structure ReadsAs (key : String) (value : Bytes) (record : Record) : Prop where
  decode : Record.decode value = .ok record
  key : key = "CTI_" ++ record.uuid

/-- The bytes under a key in one map and in another: the same record, or two that the name may not
read. -/
inductive Veiled (name key : String) (v w : Bytes) : Prop
  | same {record} : ReadsAs key v record → ReadsAs key w record → Veiled name key v w
  | hidden {a b} : ReadsAs key v a → ReadsAs key w b → ¬MayRead name a → ¬MayRead name b →
    Veiled name key v w

/-- Maps that look the same to a name: the same keys, and under each key what is veiled. -/
def LooksSame (name : String) (m n : KeyMap Bytes) : Prop :=
  ∀ key, Option.Rel (Veiled name key) (m.get? key) (n.get? key)

/-- Entries of maps that look the same. -/
def VeiledEntry (name : String) (e f : Entry) : Prop := e.1 = f.1 ∧ Veiled name e.1 e.2 f.2

section

variable {name key : String} {m n : KeyMap Bytes}

theorem ReadsAs.encode (record : Record) : ReadsAs record.key record.encode record :=
  ⟨record.decode_encode, rfl⟩

/-- The key tells the UUID, so that two records that are read under one key have the same one. -/
theorem ReadsAs.uuid_eq {v w : Bytes} {a b : Record} (ha : ReadsAs key v a) (hb : ReadsAs key w b) :
    a.uuid = b.uuid :=
  Record.keyOf_inj.mp (ha.key.symm.trans hb.key)

/-- Two stores that look the same do so with an entry more that does. -/
theorem LooksSame.insert (h : LooksSame name m n) {v w : Bytes} (hv : Veiled name key v w) :
    LooksSame name (m.insert key v) (n.insert key w) :=
  KeyMap.Related.insert h hv

end

/-! ## Stores -/

/-- Reference stores that look the same to a name, in their entries and in their saved copies. -/
structure ReferenceStore.Indistinct (name : String) (s t : ReferenceStore) : Prop where
  entries : LooksSame name s.entries t.entries
  saved : Option.Rel (LooksSame name) s.saved t.saved
  space : s.space = t.space

/-- Both stores answer a read, each with what it has; what follows is tracked from there. -/
theorem tracks_bind_of_read {σ τ ε α β γ : Type} [StoreFailure ε] {R : σ → τ → Prop} {P : σ → Prop}
    {x : Action σ ε α} {y : Action τ ε β} {f : α → Action σ ε γ} {g : β → Action τ ε γ}
    (h : ∀ s t, R s t → ∃ a b events, x.run s = ⟨.ok a, s, events⟩ ∧ y.run t = ⟨.ok b, t, events⟩ ∧
      Tracks R P (f a) (g b)) :
    Tracks R P (x >>= f) (y >>= g) := by
  intro s t hst
  obtain ⟨a, b, events, hx, hy, hfg⟩ := h s t hst
  rw [run_bind, run_bind, hx, hy]
  rcases hfg s t hst with hm | hs
  · exact .inl ⟨hm.result, congrArg (events ++ ·) hm.events, hm.store⟩
  · exact .inr ⟨hs.failed, hs.store⟩

namespace Ledger

open ReferenceStore

section

variable {name : String}

/-- Looking the same is being related by what is veiled, so that what is proved of related stores
applies. -/
theorem indistinct_eq : Indistinct name = ReferenceStore.Related (Veiled name) := by
  funext s t
  exact propext ⟨fun ⟨entries, saved, space⟩ => ⟨entries, saved, space⟩,
    fun ⟨entries, saved, space⟩ => ⟨entries, saved, space⟩⟩

/-- An invocation keeps stores indistinct if its body does: the saved copies are indistinct as well. -/
theorem tracks_atomically_veiled {α : Type} {x : Action ReferenceStore LedgerError α}
    (hx : Tracks (Indistinct name) Never x x) :
    Tracks (Indistinct name) Never (atomically x) (atomically x) := by
  rw [indistinct_eq] at hx ⊢
  exact tracks_atomically tracks_begin tracks_commit tracks_rollback hx

/-- A record is put under its own key, so both stores read the same there afterwards.  Whatever was
veiled under that key is gone. -/
theorem tracks_putSame (record : Record) : Tracks (Indistinct name) Never
    (putRecord record : Action ReferenceStore LedgerError Unit) (putRecord record) := by
  rw [indistinct_eq]
  exact tracks_lift (tracks_put (.same (.encode record) (.encode record)))

theorem tracks_deleteSame (key : String) : Tracks (Indistinct name) Never
    (Store.delete key : Action ReferenceStore StoreError Unit) (Store.delete key) := by
  rw [indistinct_eq]
  exact tracks_delete key

/-- Whether a key is stored does not depend on what is stored under it, and both stores have the same
keys. -/
theorem tracks_findSame (key : String) : Tracks (Indistinct name) Never
    (isStored key : Action ReferenceStore LedgerError Bool) (isStored key) := by
  refine tracks_bind_of_read fun s t hst => ?_
  refine ⟨s.entries.get? key, t.entries.get? key, [], rfl, rfl, ?_⟩
  rw [isSome_eq_of_rel (hst.entries key)]
  exact tracks_pure _

/-- Decoding what is read as a record does not fail, whatever key an error would have named. -/
theorem ofExcept_decodeStored {σ : Type} {key key' : String} {value : Bytes} {record : Record}
    (h : ReadsAs key value record) :
    (ofExcept (decodeStored key' value) : Action σ LedgerError Record) = pure record := by
  have hdecode : decodeStored key' value = .ok record := mapError_eq_ok.mpr h.decode
  rw [hdecode, ofExcept_ok]

/-- What follows the loading of a record has to be tracked for the same record, and for two hidden
ones of the UUID that was asked for. -/
theorem tracks_load_bind {α : Type} (uuid : String) {f g : Record → Action ReferenceStore LedgerError α}
    (hsame : ∀ record, Tracks (Indistinct name) Never (f record) (g record))
    (hhidden : ∀ a b, a.uuid = b.uuid → ¬MayRead name a → ¬MayRead name b →
      Tracks (Indistinct name) Never (f a) (g b)) :
    Tracks (Indistinct name) Never (load uuid >>= f) (load uuid >>= g) := by
  unfold load
  rw [bind_assoc, bind_assoc]
  refine tracks_bind_of_read fun s t hst => ?_
  refine ⟨s.entries.get? (Record.keyOf uuid), t.entries.get? (Record.keyOf uuid), [], rfl, rfl, ?_⟩
  generalize s.entries.get? (Record.keyOf uuid) = v, t.entries.get? (Record.keyOf uuid) = w,
    hst.entries (Record.keyOf uuid) = hvw
  -- under the key both stores have nothing, the same record, or two hidden ones
  cases hvw with
  | none => exact tracks_fail _
  | some hveiled =>
    cases hveiled with
    | @same record hv hw =>
      simp only [ofExcept_decodeStored hv, ofExcept_decodeStored hw, pure_bind]
      exact hsame record
    | @hidden a b ha hb hna hnb =>
      simp only [ofExcept_decodeStored ha, ofExcept_decodeStored hb, pure_bind]
      exact hhidden a b (ha.uuid_eq hb) hna hnb

end

/-! ## Bodies -/

section

variable {name : String} {caller : Caller}

variable (hname : Presents caller name)
include hname

/-- A request that the table does not permit is reported and refused, and nothing follows.  The report
and the error name the request alone. -/
theorem judge_bind_denied {σ α : Type} {request : Request} (hdenied : ¬Permits name request)
    (f : Role → Action σ LedgerError α) :
    judge ⟨caller, .rbac⟩ request >>= f
      = .report (.denied ⟨.ofName name, request.operation, request.target⟩) >>= fun _ =>
        .fail (denied name request) := by
  have hcheck : Mode.rbac.check (.ofName name) request
      = .deny ⟨.ofName name, request.operation, request.target⟩ := check_of_not_allows hdenied
  unfold judge authorize
  rw [callerRole_of_presents hname]
  simp only [ofExcept_ok, pure_bind, bind_assoc, hcheck]
  rfl

/-- Requests that are both refused are refused alike if they are said to be about the same. -/
theorem tracks_judge_denied {σ τ α : Type} {R : σ → τ → Prop} {P : σ → Prop} {p q : Request}
    (hp : ¬Permits name p) (hq : ¬Permits name q) (hoperation : p.operation = q.operation)
    (htarget : p.target = q.target) (herror : denied name p = denied name q)
    (f : Role → Action σ LedgerError α) (g : Role → Action τ LedgerError α) :
    Tracks R P (judge ⟨caller, .rbac⟩ p >>= f) (judge ⟨caller, .rbac⟩ q >>= g) := by
  rw [judge_bind_denied hname hp, judge_bind_denied hname hq, hoperation, htarget, herror]
  exact tracks_bind (tracks_report _) fun _ => tracks_fail _

/-- What a refusal says of a record that was asked for is its UUID, and that is the same for two records
under one key. -/
theorem tracks_release_hidden {a b : Record} (huuid : a.uuid = b.uuid) (ha : ¬MayRead name a)
    (hb : ¬MayRead name b) :
    Tracks (Indistinct name) Never
      (release ⟨caller, .rbac⟩ a : Action ReferenceStore LedgerError Record)
      (release ⟨caller, .rbac⟩ b) := by
  have hda : ¬Permits name (.read a) := fun | .read h => ha h
  have hdb : ¬Permits name (.read b) := fun | .read h => hb h
  exact tracks_judge_denied hname hda hdb rfl (congrArg some huuid)
    (congrArg (LedgerError.forbidden _ _) huuid) _ _

/-- An update of a record that is hidden in both stores is refused in both, with one answer and one
report. -/
theorem tracks_exchange_hidden (record : Record) {a b : Record} (huuid : a.uuid = b.uuid)
    (ha : ¬MayRead name a) (hb : ¬MayRead name b) :
    Tracks (Indistinct name) Never
      (exchange ⟨caller, .rbac⟩ record a : Action ReferenceStore LedgerError Unit)
      (exchange ⟨caller, .rbac⟩ record b) := by
  have hda : ¬Permits name (.update a) := fun | .update h => ha (mayRead_of_mayUpdate h)
  have hdb : ¬Permits name (.update b) := fun | .update h => hb (mayRead_of_mayUpdate h)
  exact tracks_judge_denied hname hda hdb rfl (congrArg some huuid)
    (congrArg (LedgerError.forbidden _ _) huuid) _ _

/-- A loaded record is shown on both stores, or refused on both: it is the same in both, or hidden from
the name in both. -/
theorem tracks_fetch_veiled (uuid : String) :
    Tracks (Indistinct name) Never
      (fetch ⟨caller, .rbac⟩ uuid : Action ReferenceStore LedgerError Record)
      (fetch ⟨caller, .rbac⟩ uuid) := by
  rw [fetch_eq]
  exact tracks_load_bind uuid (tracks_release _) fun a b huuid ha hb =>
    tracks_release_hidden hname huuid ha hb

/-- An update keeps stores indistinct: its record is the same in both, or hidden in both. -/
theorem tracks_replace_veiled (record : Record) :
    Tracks (Indistinct name) Never
      (replace ⟨caller, .rbac⟩ record : Action ReferenceStore LedgerError Unit)
      (replace ⟨caller, .rbac⟩ record) := by
  rw [replace_eq]
  exact tracks_load_bind record.uuid (tracks_exchange tracks_putSame _ record)
    fun a b huuid ha hb => tracks_exchange_hidden hname record huuid ha hb

omit hname

/-- Entries that look the same are sifted alike: a hidden one is reported by its UUID and counted. -/
theorem tracks_sift_veiled {es fs : List Entry} (h : List.Forall₂ (VeiledEntry name) es fs) :
    Tracks (Indistinct name) Never
      (sift .rbac (.ofName name) es : Action ReferenceStore LedgerError _)
      (sift .rbac (.ofName name) fs) := by
  induction h with
  | nil => exact tracks_pure _
  | @cons e f es fs hef _ ih =>
    obtain ⟨-, hveiled⟩ := hef
    refine tracks_bind_of_read fun s t _ => ⟨e, f, [], rfl, rfl, ?_⟩
    cases hveiled with
    | @same record hv hw =>
      simp only [ofExcept_decodeStored hv, ofExcept_decodeStored hw, pure_bind]
      by_cases hr : Mode.rbac.canRead (.ofName name) record
      · simp only [hr, if_true]
        exact tracks_bind ih fun _ => tracks_pure _
      · simp only [hr]
        exact tracks_bind (tracks_report _) fun _ => tracks_bind ih fun _ => tracks_pure _
    | @hidden a b ha hb hna hnb =>
      -- the entries have one key, so both reports name the same UUID
      have huuid : a.uuid = b.uuid := ha.uuid_eq hb
      have hra : ¬Mode.rbac.canRead (.ofName name) a := fun h => hna ((Mode.canRead_rbac name a).mp h)
      have hrb : ¬Mode.rbac.canRead (.ofName name) b := fun h => hnb ((Mode.canRead_rbac name b).mp h)
      simp only [ofExcept_decodeStored ha, ofExcept_decodeStored hb, pure_bind, hra, hrb, huuid]
      exact tracks_bind (tracks_report _) fun _ => tracks_bind ih fun _ => tracks_pure _

include hname in
/-- The pages of both stores have the same keys, the same bookmark, and as many entries to report.  What
is cut does not depend on what is stored under the keys. -/
theorem tracks_browse_veiled (size : Int) (bookmark : String) :
    Tracks (Indistinct name) Never
      (browse ⟨caller, .rbac⟩ size bookmark : Action ReferenceStore LedgerError Page)
      (browse ⟨caller, .rbac⟩ size bookmark) := by
  refine tracks_browse fun role hrole hsize => ?_
  obtain rfl : role = .ofName name := Except.ok.inj (hrole.symm.trans (callerRole_of_presents hname))
  have hlimit : (Scan.all size bookmark).limit = .ok size.toNat := if_neg (Int.not_le.mpr hsize)
  refine tracks_bind_of_read fun s t hst => ?_
  have hs := run_lift_ok (ε := LedgerError) (run_scan_ok hlimit s)
  have ht := run_lift_ok (ε := LedgerError) (run_scan_ok hlimit t)
  obtain ⟨hentries, hbookmark⟩ := KeyMap.Related.page hst.entries (.all size bookmark) size.toNat
  -- of the two pages only that their entries are related and their bookmarks equal is used from here on
  generalize s.entries.page (.all size bookmark) size.toNat = p at hs hentries hbookmark
  generalize t.entries.page (.all size bookmark) size.toNat = q at ht hentries hbookmark
  rw [← hst.space, ← hentries.length_eq] at ht
  refine ⟨p, q, _, hs, ht, ?_⟩
  have hmore : p.hasMore = q.hasMore := congrArg (decide <| · ≠ "") hbookmark
  refine tracks_bind (tracks_sift_veiled hentries) fun found => ?_
  rw [hmore, hbookmark]
  exact tracks_bind (tracks_report _) fun _ => tracks_pure _

end

/-! ## Runs -/

section

variable {name : String} {caller : Caller}

/-- On reference stores that look the same to a name, a command of its callers is answered and
reported alike. -/
theorem tracks_run_veiled (hname : Presents caller name) (command : Command) :
    Tracks (Indistinct name) Never
      (command.run ⟨caller, .rbac⟩ : Action ReferenceStore LedgerError Reply)
      (command.run ⟨caller, .rbac⟩) := by
  refine related_run tracks_map (tracks_bind (tracks_ofExcept _)) ?init ?new ?read ?update ?delete
    ?list command
  case init => exact tracks_atomically_veiled (tracks_writeSeeds tracks_putSame _)
  case new =>
    exact fun record =>
      tracks_atomically_veiled (tracks_storeNew tracks_putSame tracks_findSame _ record)
  case read => exact fun uuid => tracks_atomically_veiled (tracks_fetch_veiled hname uuid)
  case update => exact fun record => tracks_atomically_veiled (tracks_replace_veiled hname record)
  case delete =>
    exact fun uuid => tracks_atomically_veiled (tracks_remove tracks_findSame tracks_deleteSame _ uuid)
  case list =>
    exact fun size bookmark => tracks_atomically_veiled (tracks_browse_veiled hname size bookmark)

end

section

variable {σ τ : Type} [Store σ] [LawfulStore σ] [Store τ] [LawfulStore τ]

/-- Stores that look the same to a name: their entries do, and so do the entries that their open
invocations go back to, if they have any; and their scans are reported under the same namespace. -/
def Indistinguishable (name : String) (s : σ) (t : τ) : Prop :=
  ∃ v w, Shows s v ∧ Shows t w ∧ ReferenceStore.Indistinct name v w

/-- **One step.**  The command is answered as on the reference stores that both stores show. -/
theorem Indistinguishable.step {name : String} {s : σ} {t : τ} (h : Indistinguishable name s t)
    {caller : Caller} (hname : Presents caller name) (command : Command) :
    ((command.run ⟨caller, .rbac⟩).run s).Matches (Indistinguishable name)
      ((command.run ⟨caller, .rbac⟩).run t) := by
  obtain ⟨v, w, hs, ht, hvw⟩ := h
  -- each store answers as the one that it shows, and those two answer alike
  have hsv := (tracks_run LawfulStore.simulates ⟨caller, .rbac⟩ command).matches hs
  have htw := (tracks_run LawfulStore.simulates ⟨caller, .rbac⟩ command).matches ht
  have hm := (tracks_run_veiled hname command).matches hvw
  exact {
    result := hsv.result.trans (hm.result.trans htw.result.symm)
    events := hsv.events.trans (hm.events.trans htw.events.symm)
    store := ⟨_, _, hsv.store, htw.store, hm.store⟩ }

/-- **Noninterference.**  Under enforcement, take two stores with the same keys, each the key of what is
stored under it, and there the same record or two that a name may not read.  Commands of callers of that
name are answered and reported alike on both stores, one by one, and after each of them the stores are
again of this kind. -/
theorem hidden_records_noninterfering (name : String) (s : σ) (t : τ)
    (h : Indistinguishable name s t) (steps : List (Caller × Command))
    (hsteps : ∀ step ∈ steps, Presents step.1 name) :
    List.Forall₂ (Outcome.Matches (Indistinguishable name)) (outcomes s (enforced steps))
      (outcomes t (enforced steps)) := by
  induction steps generalizing s t with
  | nil => exact .nil
  | cons step steps ih =>
    obtain ⟨caller, command⟩ := step
    obtain ⟨hname, hsteps⟩ := List.forall_mem_cons.mp hsteps
    have hm := h.step hname command
    exact .cons hm (ih _ _ hm.store hsteps)

end

/-- A record that only the head of operations and the special operations unit may read. -/
def withheldRecord (description : String) : Record :=
  ⟨"1", description, "2024-05-01T10:00:00Z", "HeadOfOperations", "cid", "kv", "hash", []⟩

/-- A store with a record for the tactical unit, and one of a description that is withheld from it. -/
def storeWithholding (description : String) : MemoryStore :=
  ⟨filed (Record.seeds.foldl filed .empty) (withheldRecord description), none⟩

/-- The tactical unit asks for the withheld record, tries to replace it and to delete it, and lists. -/
def tacticalSteps : List (Caller × Command) :=
  [.read "1", .update (withheldRecord "none"), .delete "1", .list 1 "CTI_1", .list 10 ""].map
    (.ofRole "TacticalUnit", ·)

/-- What the tactical unit is not to see can be described in any way: the seeds are the same in both
stores, and the record that is withheld is under its key in each. -/
theorem looksSame_withholding (a b : String) :
    LooksSame "TacticalUnit" (storeWithholding a).entries (storeWithholding b).entries := by
  have reads : ∀ description, ReadsAs (Record.keyOf "1") (withheldRecord description).encode
      (withheldRecord description) := fun description => .encode (withheldRecord description)
  have unread : ∀ description, ¬MayRead "TacticalUnit" (withheldRecord description) := by
    simp [mayRead_iff, withheldRecord]
  have hempty : LooksSame "TacticalUnit" .empty .empty := fun _ => .none
  have hseeds : LooksSame "TacticalUnit" (Record.seeds.foldl filed .empty)
      (Record.seeds.foldl filed .empty) :=
    (hempty.insert (.same (.encode _) (.encode _))).insert (.same (.encode _) (.encode _))
  exact hseeds.insert (.hidden (reads a) (reads b) (unread a) (unread b))

/-- The two stores differ in what is stored under a key, and the unit is told nothing of it. -/
theorem tactical_unit_told_nothing :
    (storeWithholding "dawn").entries ≠ (storeWithholding "dusk").entries ∧
      Indistinguishable "TacticalUnit" (storeWithholding "dawn") (storeWithholding "dusk") ∧
      List.Forall₂ (Outcome.Matches (Indistinguishable "TacticalUnit"))
        (outcomes (storeWithholding "dawn") (enforced tacticalSteps))
        (outcomes (storeWithholding "dusk") (enforced tacticalSteps)) := by
  have stores : ∀ description, (storeWithholding description).entries.get? (Record.keyOf "1")
      = some (withheldRecord description).encode := fun _ =>
    (KeyMap.get?_insert ..).trans (if_pos rfl)
  have halike : Indistinguishable "TacticalUnit" (storeWithholding "dawn") (storeWithholding "dusk") :=
    ⟨_, _, rfl, rfl, looksSame_withholding _ _, .none, rfl⟩
  refine ⟨fun h => ?_, halike, ?_⟩
  · -- decoding tells the encodings apart
    have hbytes := (stores "dawn").symm.trans (h ▸ stores "dusk")
    have hrecords := congrArg Record.decode (Option.some.inj hbytes)
    rw [Record.decode_encode, Record.decode_encode] at hrecords
    exact absurd (congrArg Record.description (Except.ok.inj hrecords)) (by decide)
  · refine hidden_records_noninterfering "TacticalUnit" _ _ halike tacticalSteps fun step hstep => ?_
    obtain ⟨command, -, rfl⟩ := List.mem_map.mp hstep
    exact rfl

end Ledger
end ThreatLedger
