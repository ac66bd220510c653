/-
  Complete mediation: what a caller achieves under enforcement, whatever is stored.

  1. **Changes** — how the entries afterwards differ from the ones before, key by key.
  2. **Grants** — `Granted` has one constructor for each command: who may carry it out, what it
     answers and what it changes.
  3. **Mediation** — every command that succeeds was granted to the name that the caller presents,
     and every other one changes nothing (`mediated`).
-/
import ThreatLedger.Proofs.Ledger.Admission
import ThreatLedger.Proofs.Store.Backends

namespace ThreatLedger.Ledger

/-! ## Changes -/

/-- The entries `m'` have `value` under a key, or nothing if there is none, and are as `m`
otherwise. -/
def SetsKey (m m' : KeyMap Bytes) (key : String) (value : Option Bytes) : Prop :=
  ∀ k, m'.get? k = if k = key then value else m.get? k

/-- The entries `m'` have each of the records under its key, and are as `m` otherwise. -/
def SetsRecords (m m' : KeyMap Bytes) (records : List Record) : Prop :=
  (∀ record ∈ records, m'.get? record.key = some record.encode) ∧
    ∀ k, (∀ record ∈ records, k ≠ record.key) → m'.get? k = m.get? k

theorem setsKey_insert (m : KeyMap Bytes) (key : String) (value : Bytes) :
    SetsKey m (m.insert key value) key (some value) := m.get?_insert key value

theorem setsKey_erase (m : KeyMap Bytes) (key : String) : SetsKey m (m.erase key) key none :=
  m.get?_erase key

/-- Records of different keys are all filed, by induction on them: none is overwritten by a later
one. -/
theorem setsRecords_foldl (m : KeyMap Bytes) (records : List Record)
    (h : records.Pairwise fun a b => a.key ≠ b.key) :
    SetsRecords m (records.foldl filed m) records := by
  induction records generalizing m with
  | nil => exact ⟨fun _ hr => absurd hr List.not_mem_nil, fun _ _ => rfl⟩
  | cons record records ih =>
    obtain ⟨hne, hrest⟩ := List.pairwise_cons.mp h
    obtain ⟨hset, hkept⟩ := ih (filed m record) hrest
    refine ⟨fun other ho => ?_, fun k hk => ?_⟩
    · -- the first record is filed first, and none behind it has its key
      rcases List.mem_cons.mp ho with rfl | ho
      · rw [List.foldl_cons, hkept _ fun r hr => (hne r hr), filed, KeyMap.get?_insert, if_pos rfl]
      · exact hset other ho
    · obtain ⟨hk, hks⟩ := List.forall_mem_cons.mp hk
      rw [List.foldl_cons, hkept k hks, filed, KeyMap.get?_insert, if_neg hk]

/-! ## Grants -/

/-- A record that was decoded from the bytes stored under some key. -/
def DecodedFrom (m : KeyMap Bytes) (record : Record) : Prop :=
  ∃ key value, m.get? key = some value ∧ Record.decode value = .ok record

/-- A caller of a name carries a command out on the entries `m`: it answers `reply` and leaves the
entries `m'`.  What is judged is the record that was stored, whatever the incoming one says. -/
inductive Granted (name : String) (m : KeyMap Bytes) : Command → Reply → KeyMap Bytes → Prop
  | init {m'} : name = "HeadOfOperations" → SetsRecords m m' Record.seeds →
    Granted name m .init .done m'
  | create {record m'} :
    name ∈ ["HeadOfOperations", "IntelligenceUnit", "SpecialOperationsUnit"] →
    m.get? ("CTI_" ++ record.uuid) = none →
    SetsKey m m' ("CTI_" ++ record.uuid) (some record.encode) →
    Granted name m (.create record) .done m'
  | createText {text record reply m'} : Record.parse text = .ok record →
    Granted name m (.create record) reply m' → Granted name m (.createText text) reply m'
  | read {uuid value record} : m.get? ("CTI_" ++ uuid) = some value →
    Record.decode value = .ok record → MayRead name record →
    Granted name m (.read uuid) (.record record) m
  | update {record value stored m'} : m.get? ("CTI_" ++ record.uuid) = some value →
    Record.decode value = .ok stored → MayUpdate name stored →
    SetsKey m m' ("CTI_" ++ record.uuid) (some record.encode) →
    Granted name m (.update record) .done m'
  | updateText {text record reply m'} : Record.parse text = .ok record →
    Granted name m (.update record) reply m' → Granted name m (.updateText text) reply m'
  | delete {uuid m'} : name = "HeadOfOperations" → m.get? ("CTI_" ++ uuid) ≠ none →
    SetsKey m m' ("CTI_" ++ uuid) none → Granted name m (.delete uuid) .done m'
  | list {size bookmark page} :
    name ∈ ["HeadOfOperations", "SpecialOperationsUnit", "IntelligenceUnit", "TacticalUnit"] →
    (∀ record ∈ page.records, DecodedFrom m record ∧ MayRead name record) →
    Granted name m (.list size bookmark) (.page page) m

section

variable {caller : Caller} {m m' : KeyMap Bytes}

/-- What is looked up is stored under the key of the UUID, and decodes to the record. -/
theorem lookUp_eq_ok {uuid : String} {record : Record} (h : lookUp m uuid = .ok record) :
    ∃ value, m.get? (Record.keyOf uuid) = some value ∧ Record.decode value = .ok record := by
  unfold lookUp at h
  split at h
  · cases h
  · next value hvalue => exact ⟨value, hvalue, mapError_eq_ok.mp h⟩

/-- What is decoded of entries of a map was stored in it, by induction on the entries. -/
theorem decodedFrom_of_decodeAll {es : List Entry} {records : List Record}
    (hes : ∀ e ∈ es, e ∈ m.entries) (h : decodeAll es = .ok records) :
    ∀ record ∈ records, DecodedFrom m record := by
  induction es generalizing records with
  | nil =>
    cases h
    exact fun _ hr => absurd hr List.not_mem_nil
  | cons e es ih =>
    obtain ⟨he, hes⟩ := List.forall_mem_cons.mp hes
    rw [decodeAll_cons, bind_eq_ok] at h
    obtain ⟨record, hrecord, h⟩ := h
    obtain ⟨rest, hrest, rfl⟩ := map_eq_ok.mp h
    refine List.forall_mem_cons.mpr ⟨?_, ih hes hrest⟩
    exact ⟨e.1, e.2, KeyMap.get?_eq_some_iff.mpr he, mapError_eq_ok.mp hrecord⟩

theorem seeded_granted (h : seeded ⟨caller, .rbac⟩ m = .ok m') :
    ∃ name, Presents caller name ∧ Granted name m .init .done m' := by
  obtain ⟨role, hrole, h⟩ := bind_eq_ok.mp h
  have ⟨name, hname, _, .init hp⟩ := permits_of_admitted hrole
  cases h
  exact ⟨name, hname, .init hp (setsRecords_foldl m Record.seeds (by decide))⟩

/-- A record is only created for a name that is granted it, and sets its own key.  The grant was judged
on the submitted record, as none is stored. -/
theorem created_granted {record : Record} (h : created ⟨caller, .rbac⟩ m record = .ok m') :
    ∃ name, Presents caller name ∧ Granted name m (.create record) .done m' := by
  obtain ⟨_, -, h⟩ := bind_eq_ok.mp h
  obtain ⟨role, hrole, h⟩ := bind_eq_ok.mp h
  have ⟨name, hname, _, .create hp⟩ := permits_of_admitted hrole
  split at h
  · cases h
  · next hfree =>
    cases h
    have hfree : m.get? record.key = none := by simpa using hfree
    exact ⟨name, hname, .create hp hfree (setsKey_insert m _ _)⟩

/-- A record is only read for a name that is granted that very record, as it is stored. -/
theorem found_granted {uuid : String} {record : Record}
    (h : found ⟨caller, .rbac⟩ m uuid = .ok record) :
    ∃ name, Presents caller name ∧ Granted name m (.read uuid) (.record record) m := by
  obtain ⟨stored, hstored, h⟩ := bind_eq_ok.mp h
  obtain ⟨role, hrole, h⟩ := bind_eq_ok.mp h
  have ⟨name, hname, _, .read hp⟩ := permits_of_admitted hrole
  obtain ⟨value, hvalue, hdecode⟩ := lookUp_eq_ok hstored
  cases h
  exact ⟨name, hname, .read hvalue hdecode hp⟩

/-- A record is only replaced for a name that is granted the stored one; the submitted one is not
asked. -/
theorem replaced_granted {record : Record} (h : replaced ⟨caller, .rbac⟩ m record = .ok m') :
    ∃ name, Presents caller name ∧ Granted name m (.update record) .done m' := by
  obtain ⟨stored, hstored, h⟩ := bind_eq_ok.mp h
  obtain ⟨role, hrole, h⟩ := bind_eq_ok.mp h
  have ⟨name, hname, _, .update hp⟩ := permits_of_admitted hrole
  obtain ⟨value, hvalue, hdecode⟩ := lookUp_eq_ok hstored
  cases h
  exact ⟨name, hname, .update hvalue hdecode hp (setsKey_insert m _ _)⟩

/-- A record is only removed for a name that is granted it, and only its key is touched.  A removal is
judged by its UUID, as the record itself is not decoded. -/
theorem removed_granted {uuid : String} (h : removed ⟨caller, .rbac⟩ m uuid = .ok m') :
    ∃ name, Presents caller name ∧ Granted name m (.delete uuid) .done m' := by
  unfold removed at h
  split at h
  · next hstored =>
    -- what is stored is not decoded: it may hold no record
    obtain ⟨role, hrole, h⟩ := bind_eq_ok.mp h
    have ⟨name, hname, _, .delete hp⟩ := permits_of_admitted hrole
    cases h
    exact ⟨name, hname, .delete hp (Option.isSome_iff_ne_none.mp hstored) (setsKey_erase m _)⟩
  · cases h

/-- A page is only listed for a name that may list, and shows only what that name may read. -/
theorem listed_granted {size : Int} {bookmark : String} {page : Page}
    (h : listed ⟨caller, .rbac⟩ m size bookmark = .ok page) :
    ∃ name, Presents caller name ∧ Granted name m (.list size bookmark) (.page page) m := by
  obtain ⟨role, hrole, h⟩ := bind_eq_ok.mp h
  have ⟨name, hname, hof, .list hp⟩ := permits_of_admitted hrole
  split at h
  · cases h
  · obtain ⟨records, hrecords, h⟩ := bind_eq_ok.mp h
    cases h
    -- a page is cut from the entries, so what is on it is stored
    have hmem : ∀ e ∈ (m.page (.all size bookmark) size.toNat).entries, e ∈ m.entries :=
      fun e he => List.mem_of_mem_filter (List.mem_of_mem_take he)
    refine ⟨name, hname, .list hp fun record hr => ?_⟩
    obtain ⟨hr, hread⟩ := List.mem_filter.mp hr
    have .read hread := (Mode.rbac.canRead_ofName name record).mp (hof ▸ hread)
    exact ⟨decodedFrom_of_decodeAll hmem hrecords record hr, hread⟩

/-- A command that is answered was granted to the name that the caller presents.  The cases are those of
the commands, and each is one of the lemmas above. -/
theorem answer_granted {command : Command} {reply : Reply}
    (h : command.answer ⟨caller, .rbac⟩ m = .ok (reply, m')) :
    ∃ name, Presents caller name ∧ Granted name m command reply m' := by
  cases command with
  | init =>
    obtain ⟨made, hmade, ⟨⟩⟩ := map_eq_ok.mp h
    exact seeded_granted hmade
  | create record =>
    obtain ⟨made, hmade, ⟨⟩⟩ := map_eq_ok.mp h
    exact created_granted hmade
  | createText text =>
    obtain ⟨made, hmade, ⟨⟩⟩ := map_eq_ok.mp h
    obtain ⟨record, hrecord, hmade⟩ := bind_eq_ok.mp hmade
    obtain ⟨name, hname, hgranted⟩ := created_granted hmade
    exact ⟨name, hname, .createText (mapError_eq_ok.mp hrecord) hgranted⟩
  | read uuid =>
    obtain ⟨record, hrecord, ⟨⟩⟩ := map_eq_ok.mp h
    exact found_granted hrecord
  | update record =>
    obtain ⟨made, hmade, ⟨⟩⟩ := map_eq_ok.mp h
    exact replaced_granted hmade
  | updateText text =>
    obtain ⟨made, hmade, ⟨⟩⟩ := map_eq_ok.mp h
    obtain ⟨record, hrecord, hmade⟩ := bind_eq_ok.mp hmade
    obtain ⟨name, hname, hgranted⟩ := replaced_granted hmade
    exact ⟨name, hname, .updateText (mapError_eq_ok.mp hrecord) hgranted⟩
  | delete uuid =>
    obtain ⟨made, hmade, ⟨⟩⟩ := map_eq_ok.mp h
    exact removed_granted hmade
  | list size bookmark =>
    obtain ⟨page, hpage, ⟨⟩⟩ := map_eq_ok.mp h
    exact listed_granted hpage

end

/-! ## Mediation -/

/-- **Complete mediation.**  Under enforcement, whatever a store holds and whoever calls: a command
that succeeds was granted to the name that the caller presents, and one that fails changes
nothing. -/
theorem mediated {σ : Type} [Store σ] [LawfulStore σ] (s : σ) (m : KeyMap Bytes) (hs : Holds s m)
    (caller : Caller) (command : Command) :
    let o := (command.run ⟨caller, .rbac⟩).run s
    ∃ m', Holds o.store m' ∧ (∀ e, o.result = .error e → m' = m) ∧
      ∀ reply, o.result = .ok reply →
        ∃ name, Presents caller name ∧ Granted name m command reply m' := by
  obtain ⟨hresult, hstore⟩ := run_answer hs ⟨caller, .rbac⟩ command
  refine ⟨_, hstore, fun e he => ?_, fun reply hr => ?_⟩
  · -- a command that fails leaves the entries as they were
    rw [hresult] at he
    cases ha : command.answer ⟨caller, .rbac⟩ m with
    | error e' => rfl
    | ok answer => rw [ha] at he; cases he
  · obtain ⟨⟨reply', m'⟩, ha, rfl⟩ := map_eq_ok.mp (hresult.symm.trans hr)
    rw [ha]
    exact answer_granted ha

/-- A store with a record's key over bytes that hold no record, and with a foreign key. -/
def mixedEntries : KeyMap Bytes := (KeyMap.empty.insert "CTI_1" [0x7b]).insert "" [0xff]

/-- The head of operations may delete what nobody could read, and nothing else goes with it. -/
theorem delete_corrupt_mediated :
    let o := ((Command.delete "1").run ⟨.ofRole "HeadOfOperations", .rbac⟩).run
      (⟨mixedEntries, none⟩ : MemoryStore)
    o.result = .ok .done ∧ ∃ m', Holds o.store m' ∧ SetsKey mixedEntries m' "CTI_1" none := by
  have hs : Holds (⟨mixedEntries, none⟩ : MemoryStore) mixedEntries :=
    (MemoryStore.holds_iff _ _).mpr rfl
  obtain ⟨m', hm', -, hok⟩ := mediated _ _ hs (.ofRole "HeadOfOperations") (.delete "1")
  have hdone : (((Command.delete "1").run ⟨.ofRole "HeadOfOperations", .rbac⟩).run
      (⟨mixedEntries, none⟩ : MemoryStore)).result = .ok .done := by rfl
  obtain ⟨name, -, hgranted⟩ := hok _ hdone
  have .delete _ _ hset := hgranted
  exact ⟨hdone, m', hm', hset⟩

end ThreatLedger.Ledger
