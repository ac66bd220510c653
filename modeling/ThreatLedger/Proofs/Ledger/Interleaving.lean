/-
  Listing page after page while others write.

  1. **Edits** — whoever asks and under whatever mode, a command that is answered files records or
     erases a key; either keeps every record under the key of its UUID.
  2. **Pages** — a page lists the records that are stored and may be seen from its bookmark on, up to
     the bookmark that it answers with, or all of them if that is empty (`pageOf_of_list`).
  3. **Strolls** — a stroll lists from the bookmark of each page, of any size, after others have
     carried out any commands.  What is listed later is never before the bookmark, so by induction
     nothing is listed twice, and what can be seen all along is not passed over
     (`strolls_stable`).

  The bookmark is only ever compared with keys.  Whether it is still stored does not matter.
-/
import ThreatLedger.Proofs.Ledger.Integrity
import ThreatLedger.Proofs.Ledger.Noninterference
import ThreatLedger.Proofs.Ledger.Pagination
import ThreatLedger.Proofs.Text.ByteOrder

namespace ThreatLedger.Ledger

/-! ## Edits -/

/-- Every entry holds a record, under the key of its UUID. -/
def Keyed (m : KeyMap Bytes) : Prop :=
  ∀ key value, m.get? key = some value → ∃ record, ReadsAs key value record

/-- What a command that is answered makes of the entries. -/
inductive Edit (m : KeyMap Bytes) : KeyMap Bytes → Prop
  | files (records : List Record) : Edit m (records.foldl filed m)
  | erases (key : String) : Edit m (m.erase key)

/-- Entries that are well kept have their records under their keys. -/
theorem WellKept.keyed {m : KeyMap Bytes} (h : WellKept m) : Keyed m := by
  intro key value hget
  obtain ⟨record, -, hkey, -, hdecode⟩ := h key value hget
  exact ⟨record, hdecode, hkey⟩

section

variable {m m' : KeyMap Bytes} {session : Session}

/-- Filing a record puts it under its own key, and leaves the records under the other keys where they
were. -/
theorem Keyed.filed (h : Keyed m) (record : Record) : Keyed (filed m record) := by
  intro key value hget
  rw [Ledger.filed, KeyMap.get?_insert] at hget
  split at hget
  · next hkey =>
    cases hget
    exact ⟨record, hkey ▸ .encode record⟩
  · exact h key value hget

/-- **The invariant of edits.**  Whatever a command does to the entries, records stay under their
keys. -/
theorem Keyed.edit (h : Keyed m) (hedit : Edit m m') : Keyed m' := by
  cases hedit with
  | files records =>
    induction records generalizing m with
    | nil => exact h
    | cons record records ih => exact ih (h.filed record)
  | erases key =>
    intro other value hget
    rw [KeyMap.get?_erase] at hget
    split at hget
    · cases hget
    · exact h other value hget

theorem edit_of_created {record : Record} (h : created session m record = .ok m') : Edit m m' := by
  obtain ⟨_, -, h⟩ := bind_eq_ok.mp h
  obtain ⟨_, -, h⟩ := bind_eq_ok.mp h
  split at h
  · cases h
  · cases h
    exact .files [record]

theorem edit_of_replaced {record : Record} (h : replaced session m record = .ok m') : Edit m m' := by
  obtain ⟨_, -, h⟩ := bind_eq_ok.mp h
  obtain ⟨_, -, ⟨⟩⟩ := bind_eq_ok.mp h
  exact .files [record]

theorem edit_of_removed {uuid : String} (h : removed session m uuid = .ok m') : Edit m m' := by
  unfold removed at h
  split at h
  · obtain ⟨_, -, ⟨⟩⟩ := bind_eq_ok.mp h
    exact .erases _
  · cases h

/-- Whatever a command is answered, the entries have been edited: records have been filed, of which
there may be none, or a key has been erased.  The cases are those of the commands. -/
theorem edit_of_answer {command : Command} {reply : Reply}
    (h : command.answer session m = .ok (reply, m')) : Edit m m' := by
  -- a command that only reads files an empty list
  cases command with
  | init =>
    obtain ⟨made, hmade, ⟨⟩⟩ := map_eq_ok.mp h
    obtain ⟨_, -, ⟨⟩⟩ := bind_eq_ok.mp hmade
    exact .files Record.seeds
  | create record =>
    obtain ⟨made, hmade, ⟨⟩⟩ := map_eq_ok.mp h
    exact edit_of_created hmade
  | createText text =>
    obtain ⟨made, hmade, ⟨⟩⟩ := map_eq_ok.mp h
    obtain ⟨record, -, hmade⟩ := bind_eq_ok.mp hmade
    exact edit_of_created hmade
  | read uuid =>
    obtain ⟨record, -, ⟨⟩⟩ := map_eq_ok.mp h
    exact .files []
  | update record =>
    obtain ⟨made, hmade, ⟨⟩⟩ := map_eq_ok.mp h
    exact edit_of_replaced hmade
  | updateText text =>
    obtain ⟨made, hmade, ⟨⟩⟩ := map_eq_ok.mp h
    obtain ⟨record, -, hmade⟩ := bind_eq_ok.mp hmade
    exact edit_of_replaced hmade
  | delete uuid =>
    obtain ⟨made, hmade, ⟨⟩⟩ := map_eq_ok.mp h
    exact edit_of_removed hmade
  | list size bookmark =>
    obtain ⟨page, -, ⟨⟩⟩ := map_eq_ok.mp h
    exact .files []

variable {σ : Type} [Store σ] [LawfulStore σ]

/-- **One step.**  After a command, every record is still under the key of its UUID, be the command one
that succeeds or one that fails. -/
theorem step_keyed {s : σ} (hs : Holds s m) (hkeyed : Keyed m) (session : Session)
    (command : Command) :
    ∃ m', Holds ((command.run session).run s).store m' ∧ Keyed m' := by
  obtain ⟨-, hstore⟩ := run_answer hs session command
  refine ⟨_, hstore, ?_⟩
  cases h : command.answer session m with
  | error e => exact hkeyed
  | ok answer => exact hkeyed.edit (edit_of_answer h)

/-- Over a whole run records stay under their keys, by induction on the commands. -/
theorem run_keyed {s : σ} (hs : Holds s m) (hkeyed : Keyed m) (steps : List (Session × Command)) :
    ∃ m', Holds (runAll s steps).2 m' ∧ Keyed m' := by
  induction steps generalizing s m with
  | nil => exact ⟨m, hs, hkeyed⟩
  | cons step steps ih =>
    obtain ⟨session, command⟩ := step
    obtain ⟨m', hs', hkeyed'⟩ := step_keyed hs hkeyed session command
    exact ih hs' hkeyed'

end

/-! ## Pages -/

/-- Among the entries is the record, exactly so, under the key of its UUID, and the role may see
it. -/
structure Readable (mode : Mode) (role : Role) (es : List Entry) (record : Record) : Prop where
  stored : ∃ value, ("CTI_" ++ record.uuid, value) ∈ es ∧ Record.decode value = .ok record
  seen : mode.canRead role record

/-- What a page lists of the entries from a bookmark on. -/
structure PageOf (mode : Mode) (role : Role) (m : KeyMap Bytes) (bookmark : String) (page : Page) :
    Prop where
  mem_iff : ∀ record, record ∈ page.records ↔ Readable mode role m.entries record ∧
    bookmark ≤ record.key ∧ (page.bookmark = "" ∨ record.key < page.bookmark)
  increasing : page.records.Pairwise fun a b => a.key < b.key
  onward : page.bookmark = "" ∨ bookmark < page.bookmark

section

variable {m : KeyMap Bytes} {mode : Mode} {role : Role} {record : Record} {bookmark : String}

/-- Entries that have their records under their keys can all be read. -/
theorem Keyed.allDecode (h : Keyed m) : AllDecode m.entries := by
  intro e he
  obtain ⟨record, hrecord⟩ := h e.1 e.2 (KeyMap.get?_eq_some_iff.mpr he)
  exact ⟨record, hrecord.decode⟩

/-- A record is visible among entries if it is stored in one of them and may be seen.  Entries that hold
no record are passed over here. -/
theorem mem_visible {es : List Entry} :
    record ∈ visible mode role es ↔
      (∃ e ∈ es, Record.decode e.2 = .ok record) ∧ mode.canRead role record := by
  rw [visible, List.mem_filter, decoded, List.mem_filterMap]
  refine and_congr_left' (exists_congr fun e => and_congr_right' ?_)
  cases Record.decode e.2 with
  | error cause => exact iff_of_false (by rintro ⟨⟩) (by rintro ⟨⟩)
  | ok found => exact ⟨fun h => congrArg _ (Option.some.inj h), fun h => congrArg _ (Except.ok.inj h)⟩

/-- A key leads to the record of its UUID, so that what is decoded of an entry names the key of that
entry. -/
theorem Keyed.key_eq (h : Keyed m) {e : Entry} (he : e ∈ m.entries)
    (hdecode : Record.decode e.2 = .ok record) : e.1 = record.key := by
  obtain ⟨found, hfound⟩ := h e.1 e.2 (KeyMap.get?_eq_some_iff.mpr he)
  cases hfound.decode.symm.trans hdecode
  exact hfound.key

/-- The records of entries in order are in the order of their keys.  Leaving out those that may not be
seen does not change the order. -/
theorem Keyed.visible_increasing (h : Keyed m) {es : List Entry} (hes : ∀ e ∈ es, e ∈ m.entries)
    (hsorted : es.Pairwise fun a b => a.1 < b.1) :
    (visible mode role es).Pairwise fun a b => a.key < b.key := by
  refine List.Pairwise.filter _ (List.pairwise_filterMap.mpr ?_)
  refine hsorted.imp_of_mem fun {e f} he hf hlt a ha b hb => ?_
  have hdecode : ∀ {v : Bytes} {r : Record}, (Record.decode v).toOption = some r →
      Record.decode v = .ok r := by
    intro v r hr
    cases hv : Record.decode v with
    | error cause => rw [hv] at hr; cases hr
    | ok found => rw [hv] at hr; exact congrArg _ (Option.some.inj hr)
  rwa [← h.key_eq (hes e he) (hdecode ha), ← h.key_eq (hes f hf) (hdecode hb)]

/-- **Pages.**  What is listed is the visible part of its page, and the bookmark is the key behind
it. -/
theorem pageOf_listed (h : Keyed m) {size : Nat} (hsize : 0 < size) :
    PageOf mode role m bookmark
      ⟨visible mode role ((m.onward bookmark).take size), m.keyBehind bookmark size⟩ where
  mem_iff record := by
    rw [mem_visible]
    constructor
    · rintro ⟨⟨e, he, hdecode⟩, hseen⟩
      obtain ⟨honward, hbefore⟩ := (m.mem_take_onward bookmark hsize).mp he
      obtain ⟨hmem, hfrom⟩ := List.mem_filter.mp honward
      have hkey := h.key_eq hmem hdecode
      refine ⟨⟨⟨e.2, ?_, hdecode⟩, hseen⟩, ?_, ?_⟩
      · exact (hkey ▸ hmem : (record.key, e.2) ∈ m.entries)
      · exact hkey ▸ of_decide_eq_true hfrom
      · exact hkey ▸ hbefore
    · rintro ⟨⟨⟨value, hmem, hdecode⟩, hseen⟩, hfrom, hbefore⟩
      have honward : (record.key, value) ∈ m.onward bookmark :=
        List.mem_filter.mpr ⟨hmem, decide_eq_true hfrom⟩
      exact ⟨⟨_, (m.mem_take_onward bookmark hsize).mpr ⟨honward, hbefore⟩, hdecode⟩, hseen⟩
  increasing := by
    refine h.visible_increasing (fun e he => ?_) ((m.onward_sorted bookmark).take)
    exact List.mem_of_mem_filter (List.mem_of_mem_take he)
  onward := (m.keyBehind_onward bookmark hsize).imp And.right And.right

end

section

variable {σ : Type} [Store σ] [LawfulStore σ] {s : σ} {m : KeyMap Bytes} {session : Session}
  {role : Role}

/-- **One page.**  A page that a caller is given lists what is stored by then, and changes
nothing. -/
theorem pageOf_list (hs : Holds s m) (hkeyed : Keyed m) (hrole : callerRole session = .ok role)
    (hlist : session.mode.check role .list = .allow) {size : Int} {bookmark : String} {page : Page}
    (hpage : ((list session size bookmark).run s).result = .ok page) :
    PageOf session.mode role m bookmark page ∧
      Holds ((list session size bookmark).run s).store m := by
  obtain ⟨hresult, hstore⟩ :=
    (list_finds session size bookmark).holds (tracks_list LawfulStore.simulates session _ _) hs
  refine ⟨?_, hstore⟩
  rw [hpage] at hresult
  -- a page was given, so its size is positive, and then the entries can be cut
  by_cases hsize : size ≤ 0
  · rw [listed, admitted_of_allow hrole hlist] at hresult
    simp only [bind, Except.bind, if_pos hsize] at hresult
    cases hresult
  · obtain ⟨size, rfl⟩ := Int.eq_ofNat_of_zero_le (by omega : 0 ≤ size)
    have hsize : 0 < size := by omega
    rw [listed_eq hkeyed.allDecode hrole hlist hsize bookmark] at hresult
    cases hresult
    exact pageOf_listed hkeyed hsize

end

/-! ## Strolls -/

/-- The pages that a caller is given who lists from a bookmark, and then from the bookmark of each
page until it is empty, each with the store that it was taken from.  The pages may be of any size,
and between them others have carried out any commands. -/
inductive Strolls {σ : Type} [Store σ] (session : Session) : σ → String → List (σ × Page) → Prop
  | last {s bookmark size page} :
    ((list session size bookmark).run s).result = .ok page → page.bookmark = "" →
    Strolls session s bookmark [(s, page)]
  | next {s bookmark size page visits} (others : List (Session × Command)) :
    ((list session size bookmark).run s).result = .ok page → page.bookmark ≠ "" →
    Strolls session (runAll ((list session size bookmark).run s).store others).2 page.bookmark
      visits →
    Strolls session s bookmark ((s, page) :: visits)

/-- The records of all pages. -/
def listedIn {σ : Type} (visits : List (σ × Page)) : List Record := visits.flatMap (·.2.records)

/-- What a stroll from a bookmark lists. -/
structure Strolled {σ : Type} [Store σ] (mode : Mode) (role : Role) (bookmark : String)
    (visits : List (σ × Page)) : Prop where
  increasing : (listedIn visits).Pairwise fun a b => a.key < b.key
  onward : ∀ record ∈ listedIn visits, bookmark ≤ record.key
  sound : ∀ visit ∈ visits, ∀ record ∈ visit.2.records,
    Readable mode role (Store.contents visit.1) record
  /-- A UUID that is not before the bookmark and can be seen at every page is on one of them. -/
  complete : ∀ uuid, bookmark ≤ Record.keyOf uuid →
    (∀ visit ∈ visits, ∃ record, record.uuid = uuid ∧
      Readable mode role (Store.contents visit.1) record) →
    ∃ record ∈ listedIn visits, record.uuid = uuid

section

variable {σ : Type} [Store σ] [LawfulStore σ] {session : Session} {role : Role}

/-- A last page lists what is onward from its bookmark: no key is behind it that it has not been asked
for. -/
theorem strolled_last {s : σ} {m : KeyMap Bytes} {mode : Mode} {bookmark : String} {page : Page}
    (hs : Holds s m) (hpage : PageOf mode role m bookmark page) (hend : page.bookmark = "") :
    Strolled mode role bookmark [(s, page)] := by
  have hlisted : listedIn [(s, page)] = page.records := List.append_nil _
  obtain ⟨hmem, hincreasing, -⟩ := hpage
  refine ⟨?_, ?_, List.forall_mem_singleton.mpr ?_, fun uuid hfrom hseen => ?_⟩
  · rwa [hlisted]
  · rw [hlisted]
    exact fun record hrecord => ((hmem record).mp hrecord).2.1
  · rw [hs.contents]
    exact fun record hrecord => ((hmem record).mp hrecord).1
  · -- whatever can be seen is onward from the bookmark, and no key is behind the page
    obtain ⟨record, rfl, hreadable⟩ := List.forall_mem_singleton.mp hseen
    rw [hs.contents] at hreadable
    rw [hlisted]
    exact ⟨record, (hmem record).mpr ⟨hreadable, hfrom, .inl hend⟩, rfl⟩

/-- A page lists what is before its bookmark, and the pages behind it only what is not.  Nothing is
listed twice for this, whatever was changed between the pages. -/
theorem strolled_next {s : σ} {m : KeyMap Bytes} {mode : Mode} {bookmark : String} {page : Page}
    {visits : List (σ × Page)} (hs : Holds s m) (hpage : PageOf mode role m bookmark page)
    (hmore : page.bookmark ≠ "") (hrest : Strolled mode role page.bookmark visits) :
    Strolled mode role bookmark ((s, page) :: visits) := by
  have hlisted : listedIn ((s, page) :: visits) = page.records ++ listedIn visits := rfl
  obtain ⟨hmem, hincreasing, honward⟩ := hpage
  rw [or_iff_right hmore] at honward
  refine ⟨?increasing, ?onward, List.forall_mem_cons.mpr ⟨?sound, hrest.sound⟩, ?complete⟩
  -- between two pages the order comes from the bookmark: the first page is before it, the others are
  -- not
  case increasing =>
    rw [hlisted]
    refine List.pairwise_append.mpr ⟨hincreasing, hrest.increasing, fun a ha b hb => ?_⟩
    have hbefore : a.key < page.bookmark := ((hmem a).mp ha).2.2.resolve_left hmore
    exact String.not_le.mp fun hle =>
      String.not_le.mpr hbefore (String.le_trans (hrest.onward b hb) hle)
  case onward =>
    rw [hlisted]
    intro record hrecord
    rcases List.mem_append.mp hrecord with hrecord | hrecord
    · exact ((hmem record).mp hrecord).2.1
    · have hle := hrest.onward record hrecord
      exact String.le_trans (String.not_lt.mp (String.lt_asymm honward)) hle
  case sound =>
    rw [hs.contents]
    exact fun record hrecord => ((hmem record).mp hrecord).1
  case complete =>
    intro uuid hfrom hseen
    obtain ⟨⟨record, rfl, hreadable⟩, hseen⟩ := List.forall_mem_cons.mp hseen
    rw [hlisted]
    -- a UUID before the bookmark has its place on this page, any other one on a later page
    by_cases hbefore : record.key < page.bookmark
    · rw [hs.contents] at hreadable
      have hrecord := (hmem record).mpr ⟨hreadable, hfrom, .inr hbefore⟩
      exact ⟨record, List.mem_append_left _ hrecord, rfl⟩
    · obtain ⟨found, hfound, huuid⟩ := hrest.complete record.uuid (String.not_lt.mp hbefore) hseen
      exact ⟨found, List.mem_append_right _ hfound, huuid⟩

/-- A stroll through a changing store is a sequence of pages, each of the entries at its time, by
induction on the visits. -/
theorem strolls_strolled (hrole : callerRole session = .ok role)
    (hlist : session.mode.check role .list = .allow) {s : σ} {m : KeyMap Bytes} (hs : Holds s m)
    (hkeyed : Keyed m) {bookmark : String} {visits : List (σ × Page)}
    (h : Strolls session s bookmark visits) : Strolled session.mode role bookmark visits := by
  induction h generalizing m with
  | last hpage hend => exact strolled_last hs (pageOf_list hs hkeyed hrole hlist hpage).1 hend
  | next others hpage hmore hrest ih =>
    obtain ⟨hpageOf, hstore⟩ := pageOf_list hs hkeyed hrole hlist hpage
    obtain ⟨m', hs', hkeyed'⟩ := run_keyed hstore hkeyed others
    exact strolled_next hs hpageOf hmore (ih hs' hkeyed')

/-- **Stability.**  From a store in which every record is under the key of its UUID, a caller who may
list goes from page to page, while others carry out any commands in between.  When the last page has
been listed, the UUIDs of all pages increase in the order of their UTF-8 bytes; every record was
stored exactly so when its page was taken, and the caller could see it; and a UUID that is stored and
can be seen at every page is listed exactly once. -/
theorem strolls_stable (s : σ) (m : KeyMap Bytes) (hs : Holds s m) (hkeyed : Keyed m)
    (session : Session) (role : Role) (hrole : callerRole session = .ok role)
    (hlist : session.mode.check role .list = .allow) (visits : List (σ × Page))
    (h : Strolls session s "" visits) :
    let uuids := (listedIn visits).map (·.uuid)
    uuids.Pairwise (fun a b => Bytes.ofText a < Bytes.ofText b) ∧
      (∀ visit ∈ visits, ∀ record ∈ visit.2.records,
        Readable session.mode role (Store.contents visit.1) record) ∧
      ∀ uuid, (∀ visit ∈ visits, ∃ record, record.uuid = uuid ∧
          Readable session.mode role (Store.contents visit.1) record) →
        uuids.count uuid = 1 := by
  have hstrolled := strolls_strolled hrole hlist hs hkeyed h
  -- UUIDs are compared as their keys are, and these as their bytes
  have hincreasing : ((listedIn visits).map (·.uuid)).Pairwise (· < ·) :=
    List.pairwise_map.mpr (hstrolled.increasing.imp fun hlt => (Record.keyOf_lt_iff _ _).mp hlt)
  refine ⟨hincreasing.imp fun hlt => Bytes.ofText_lt hlt, hstrolled.sound, fun uuid hseen => ?_⟩
  obtain ⟨record, hrecord, huuid⟩ := hstrolled.complete uuid (empty_le _) hseen
  have hnodup : ((listedIn visits).map (·.uuid)).Nodup :=
    hincreasing.imp fun {a b} hlt (heq : a = b) => String.lt_irrefl _ (heq ▸ hlt)
  exact List.count_eq_one_of_mem hnodup (huuid ▸ List.mem_map_of_mem hrecord)

end

/-- A record that is filed while somebody lists. -/
def lateRecord (uuid : String) : Record :=
  { uuid
    description := "late"
    timestamp := "2023-10-03T12:00:00Z"
    sender := "IntelligenceUnit"
    cid := "CID"
    vaultKey := "vaultKey"
    sha256 := "sha256hash"
    access := [] }

/-- The second seed is deleted, and there are new records before and behind it. -/
def meanwhile : List (Session × Command) :=
  [(⟨.ofRole "HeadOfOperations", .rbac⟩, .delete "67890"),
    (⟨.ofRole "IntelligenceUnit", .rbac⟩, .create (lateRecord "1")),
    (⟨.ofRole "IntelligenceUnit", .rbac⟩, .create (lateRecord "7"))]

/-- A unit lists the first seed, and is given the key of the second one as the bookmark.  That key is
gone when the unit goes on from there, and it finds what is behind it by then. -/
theorem stroll_past_deleted :
    ∃ visits : List (MemoryStore × Page),
      Strolls ⟨.ofRole "SpecialOperationsUnit", .rbac⟩
        ⟨stored (Record.seeds.foldl Registry.enter .empty), none⟩ "" visits ∧
      visits.map (·.2.bookmark) = ["CTI_67890", ""] ∧
      (listedIn visits).map (·.uuid) = ["12345", "7"] ∧
      ∀ visit ∈ visits, ∀ record ∈ visit.2.records,
        Readable .rbac .specialOperationsUnit (Store.contents visit.1) record := by
  let session : Session := ⟨.ofRole "SpecialOperationsUnit", .rbac⟩
  let seeds : Registry := Record.seeds.foldl Registry.enter .empty
  have horderly : Orderly seeds := ⟨filed_empty.enterAll Record.seeds, rfl⟩
  have hs : Holds (⟨stored seeds, none⟩ : MemoryStore) (stored seeds) :=
    (MemoryStore.holds_iff _ _).mpr rfl
  obtain ⟨hfirst, hstore⟩ :=
    (list_finds session 1 "").holds (tracks_list LawfulStore.simulates session 1 "") hs
  obtain ⟨-, hlast⟩ := run_steps horderly.filed hstore meanwhile
  obtain ⟨hsecond, -⟩ := (list_finds session 5 "CTI_67890").holds
    (tracks_list LawfulStore.simulates session 5 "CTI_67890") hlast
  -- what the two pages are is read off the map of records
  rw [listed_stored] at hfirst hsecond
  have hstroll := Strolls.next meanwhile hfirst (by decide) (.last hsecond rfl)
  obtain ⟨-, hsound, -⟩ := strolls_stable _ _ hs horderly.wellKept.keyed session
    .specialOperationsUnit (by rfl) (by rfl) _ hstroll
  exact ⟨_, hstroll, by rfl, by rfl, hsound⟩

end ThreatLedger.Ledger
