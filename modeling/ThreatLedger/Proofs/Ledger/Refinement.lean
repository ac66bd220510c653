/-
  The ledger on a store is the map of records.

  1. **Abstraction** — `stored` is what a store holds of a registry: every record encoded under its
     key.  Keys are in the order of their UUIDs, so changes, look-ups and ranges of a registry are
     those of what is stored of it.
  2. **Admission** — an operation and the registry check the same request, and refuse it with the
     same error.
  3. **Operations** — on what is stored of a registry, each operation answers as on the registry.
     The records in it are under their own UUIDs (`Filed`), which every operation keeps.
  4. **Runs** — by induction, a run answers as the registry does (`run_refines_registry`).
-/
import ThreatLedger.Proofs.Ledger.Registry
import ThreatLedger.Proofs.Record.RoundTrip
import ThreatLedger.Proofs.Store.Backends

namespace ThreatLedger

/-! ## Abstraction -/

namespace Record

/-- Keys are in the order of their UUIDs, behind the prefix that they share.  What two texts begin with
alike has no say in their order. -/
theorem keyOf_lt {a b : String} (h : a < b) : keyOf a < keyOf b := by
  show (keyStart ++ a).toList < (keyStart ++ b).toList
  rw [String.toList_append, String.toList_append]
  exact List.append_left_lt h

/-- Keys are in the order of their UUIDs. -/
theorem keyOf_lt_iff (a b : String) : keyOf a < keyOf b ↔ a < b := by
  refine ⟨fun h => String.not_le.mp fun hle => ?_, keyOf_lt⟩
  by_cases hba : b < a
  · exact String.lt_asymm h (keyOf_lt hba)
  · have hab : b = a := String.le_antisymm hle (String.not_lt.mp hba)
    exact String.lt_irrefl _ (hab ▸ h)

/-- Different UUIDs have different keys.  Since keys are in the order of their UUIDs, neither is below
the other. -/
theorem keyOf_inj {a b : String} : keyOf a = keyOf b ↔ a = b := by
  refine ⟨fun h => KeyMap.eq_of_not_lt (fun hab => ?_) (fun hba => ?_), congrArg keyOf⟩
  · exact String.lt_irrefl _ (h ▸ keyOf_lt hab)
  · exact String.lt_irrefl _ (h ▸ keyOf_lt hba)

end Record

namespace Ledger

open Registry

/-- An entry of a registry, as it is stored. -/
def storedEntry (e : String × Record) : Entry := (Record.keyOf e.1, e.2.encode)

/-- What a store holds of a registry. -/
def stored (m : Registry) : KeyMap Bytes where
  entries := m.entries.map storedEntry
  sorted := List.pairwise_map.mpr (m.sorted.imp fun h => (Record.keyOf_lt_iff _ _).mpr h)

theorem keyMap_ext {m n : KeyMap Bytes} (h : m.entries = n.entries) : m = n := by
  obtain ⟨es, hes⟩ := m
  obtain ⟨fs, hfs⟩ := n
  cases h
  rfl

/-- Entering a record in a registry is storing its encoding under its key: the order of the UUIDs is
that of the keys. -/
theorem stored_insert (m : Registry) (uuid : String) (record : Record) :
    stored (m.insert uuid record) = (stored m).insert (Record.keyOf uuid) record.encode := by
  obtain ⟨es, hes⟩ := m
  refine keyMap_ext ?_
  show (KeyMap.insertEntry uuid record es).map storedEntry
    = KeyMap.insertEntry (Record.keyOf uuid) record.encode (es.map storedEntry)
  -- neither side looks at the order of the entries again
  clear hes
  induction es with
  | nil => rfl
  | cons e es ih =>
    simp only [List.map_cons, KeyMap.insertEntry, storedEntry, Record.keyOf_lt_iff]
    split
    · rfl
    split
    · exact congrArg _ ih
    · rfl

/-- Removing a UUID from a registry is erasing its key from what is stored, because no other UUID has
that key. -/
theorem stored_erase (m : Registry) (uuid : String) :
    stored (m.erase uuid) = (stored m).erase (Record.keyOf uuid) := by
  refine keyMap_ext ?_
  show (m.entries.filter (·.1 ≠ uuid)).map storedEntry
    = (m.entries.map storedEntry).filter (·.1 ≠ Record.keyOf uuid)
  rw [List.filter_map]
  congr 1
  refine List.filter_congr fun e _ => ?_
  simp only [Function.comp_apply, storedEntry, ne_eq, Record.keyOf_inj]

/-- What is stored under the key of a UUID is the encoding of its record, and nothing is stored under
the key of a UUID that the registry does not have. -/
theorem get?_stored (m : Registry) (uuid : String) :
    (stored m).get? (Record.keyOf uuid) = (m.get? uuid).map Record.encode := by
  show ((m.entries.map storedEntry).find? (·.1 = Record.keyOf uuid)).map (·.2)
    = ((m.entries.find? (·.1 = uuid)).map (·.2)).map Record.encode
  rw [List.find?_map]
  simp only [Function.comp_def, storedEntry, Record.keyOf_inj, Option.map_map]

/-- The range of a registry from a bookmark on, as it is stored.  Bookmarks are compared with keys, not
with UUIDs. -/
theorem onward_stored (m : Registry) (bookmark : String) :
    (stored m).onward bookmark
      = (m.entries.filter fun e => bookmark ≤ Record.keyOf e.1).map storedEntry := by
  show (m.entries.map storedEntry).filter (fun e => bookmark ≤ e.1) = _
  rw [List.filter_map]
  rfl

/-- What is stored of records is decoded as it was, by induction on them: no listing of a registry fails
for an entry. -/
theorem decodeAll_stored (es : List (String × Record)) :
    decodeAll (es.map storedEntry) = .ok (es.map (·.2)) := by
  induction es with
  | nil => rfl
  | cons e es ih =>
    rw [List.map_cons, decodeAll_cons, ih]
    simp only [storedEntry, decodeStored, Record.decode_encode]
    rfl

theorem stored_enter (m : Registry) (record : Record) :
    stored (enter m record) = filed (stored m) record := stored_insert m record.uuid record

/-- By induction on the records: entering them is storing them one after the other. -/
theorem stored_enterAll (m : Registry) (records : List Record) :
    stored (records.foldl enter m) = records.foldl filed (stored m) := by
  induction records generalizing m with
  | nil => rfl
  | cons record records ih => rw [List.foldl_cons, List.foldl_cons, ih, stored_enter]

/-! ## Admission -/

/-- An admitted request and a checked one go on alike, with the role and with its name. -/
theorem admitted_bind {α : Type} {session : Session} {request : Request}
    (refused : Role → LedgerError) (h : ∀ name, denied name request = refused (.ofName name))
    (f : Role → Except LedgerError α) :
    admitted session request >>= f
      = checked session request refused >>= fun name => f (.ofName name) := by
  rw [admitted_eq, checked]
  cases asking session with
  | error e => rfl
  | ok name =>
    show (ite _ _ _ >>= f) = (ite _ _ _ >>= _)
    -- both ask the table, and differ in the form of the refusal
    by_cases hallows : session.mode.Allows name request
    · rw [if_pos hallows, if_pos hallows]
      rfl
    · rw [if_neg hallows, if_neg hallows, h]
      rfl

/-! ## Operations -/

/-- Every record of a registry is under its own UUID. -/
def Filed (m : Registry) : Prop := ∀ uuid record, m.get? uuid = some record → record.uuid = uuid

theorem filed_empty : Filed .empty := by
  rintro uuid record ⟨⟩

/-- A record is entered under its own UUID, and no other record is moved. -/
theorem Filed.enter {m : Registry} (h : Filed m) (record : Record) : Filed (enter m record) := by
  intro uuid found hfound
  rw [Registry.enter, KeyMap.get?_insert] at hfound
  split at hfound
  · next huuid => rw [← Option.some.inj hfound, huuid]
  · exact h uuid found hfound

theorem Filed.enterAll {m : Registry} (h : Filed m) (records : List Record) :
    Filed (records.foldl Registry.enter m) := by
  induction records generalizing m with
  | nil => exact h
  | cons record records ih => exact ih (h.enter record)

theorem Filed.erase {m : Registry} (h : Filed m) (uuid : String) : Filed (m.erase uuid) := by
  intro other found hfound
  rw [KeyMap.get?_erase] at hfound
  split at hfound
  · cases hfound
  · exact h other found hfound

section

variable {m : Registry} (session : Session)

/-- **Looking up** in the store is finding in the registry: what was encoded is decoded to itself. -/
theorem lookUp_stored (uuid : String) :
    lookUp (stored m) uuid = match m.get? uuid with
      | none => .error (.notFound .metadata uuid)
      | some record => .ok record := by
  unfold lookUp
  rw [get?_stored]
  cases m.get? uuid with
  | none => rfl
  | some record =>
    show decodeStored _ record.encode = .ok record
    rw [decodeStored, Record.decode_encode]
    rfl

theorem seeded_stored :
    Ledger.seeded session (stored m) = (Registry.seeded session m).map stored := by
  unfold Ledger.seeded Registry.seeded
  rw [admitted_bind (fun role => .unauthorized ⟨role, .init, none⟩) fun _ => rfl, ← stored_enterAll]
  cases checked session .init _ <;> rfl

/-- A record is created in the store as in the registry, with the same checks in the same order. -/
theorem created_stored (record : Record) :
    Ledger.created session (stored m) record = (Registry.created session m record).map stored := by
  unfold Ledger.created Registry.created validate
  rw [admitted_bind (fun role => .unauthorized ⟨role, .create, none⟩) fun _ => rfl, ← stored_enter,
    Record.key, get?_stored]
  by_cases hfilled : record.missingFields = []
  · rw [if_pos (List.isEmpty_iff.mpr hfilled), if_pos hfilled]
    cases checked session .create _ with
    | error e => rfl
    | ok name => cases m.get? record.uuid <;> rfl
  · rw [if_neg (mt List.isEmpty_iff.mp hfilled), if_neg hfilled]
    rfl

theorem found_stored (hm : Filed m) (uuid : String) :
    Ledger.found session (stored m) uuid = Registry.found session m uuid := by
  unfold Ledger.found Registry.found
  rw [lookUp_stored]
  cases h : m.get? uuid with
  | none => rfl
  | some record =>
    -- a refusal names the UUID of the record, which is the one that was asked for
    cases hm uuid record h
    exact admitted_bind (fun role => .forbidden role .read record.uuid) (fun _ => rfl) _

/-- A record is replaced in the store as in the registry: the check of visibility has no say in what is
written. -/
theorem replaced_stored (hm : Filed m) (record : Record) :
    Ledger.replaced session (stored m) record
      = (Registry.replaced session m record).map stored := by
  unfold Ledger.replaced Registry.replaced
  rw [lookUp_stored, ← stored_enter]
  cases h : m.get? record.uuid with
  | none => rfl
  | some held =>
    -- a refusal names the UUID of the record that is held, which is that of the new one
    have hrefused : ∀ name, denied name (.update held)
        = .forbidden (.ofName name) .update record.uuid := by
      intro name
      rw [← hm record.uuid held h]
      rfl
    dsimp only
    refine (admitted_bind (fun role => .forbidden role .update record.uuid) hrefused _).trans ?_
    cases checked session (.update held) _ <;> rfl

/-- A record is removed from the store as from the registry.  Neither decodes it first. -/
theorem removed_stored (uuid : String) :
    Ledger.removed session (stored m) uuid = (Registry.removed session m uuid).map stored := by
  unfold Ledger.removed Registry.removed
  rw [get?_stored, ← stored_erase]
  cases m.get? uuid with
  | none => rfl
  | some record =>
    let refused := fun role => LedgerError.unauthorized ⟨role, .delete, some uuid⟩
    refine (admitted_bind refused (fun _ => rfl) _).trans ?_
    cases checked session (.delete uuid) _ <;> rfl

/-- A page of the store is one of the registry, cut at the keys of its UUIDs.  The registry has the same
entries onward, in the same order. -/
theorem listed_stored (size : Int) (bookmark : String) :
    Ledger.listed session (stored m) size bookmark = Registry.listed session m size bookmark := by
  unfold Ledger.listed Registry.listed
  rw [admitted_bind (fun role => .unauthorized ⟨role, .list, none⟩) fun _ => rfl]
  cases checked session .list _ with
  | error e => rfl
  | ok name =>
    by_cases hs : size ≤ 0
    · simp only [bind, Except.bind, if_pos hs]
    · -- both cut the page first, and leave out what is hidden afterwards
      simp only [bind, Except.bind, if_neg hs, KeyMap.page_all, onward_stored]
      have hvisible : session.mode.canRead (.ofName name)
          = fun record => decide (session.mode.Allows name (.read record)) := by
        funext record
        rw [Bool.eq_iff_iff, Mode.canRead_ofName, decide_eq_true_iff]
      rw [← List.map_take, decodeAll_stored, hvisible, List.getElem?_map, Option.map_map]
      rfl

theorem parsed_eq (text : String) : parseRecord text = parsed text := by
  unfold parseRecord parsed
  cases Record.parse text <;> rfl

end

/-- **Operations.**  On what is stored of a registry, a command answers as on the registry, and
leaves behind what is stored of the registry afterwards. -/
theorem answer_stored {m : Registry} (hm : Filed m) (session : Session) (command : Command) :
    command.answer session (stored m)
      = (Registry.answer session m command).map fun p => (p.1, stored p.2) := by
  cases command with
  | init =>
    rw [Command.answer, Registry.answer, seeded_stored]
    cases Registry.seeded session m <;> rfl
  | create record =>
    rw [Command.answer, Registry.answer, created_stored]
    cases Registry.created session m record <;> rfl
  -- the text is parsed alike on both sides, and what is parsed is created
  | createText text =>
    rw [Command.answer, Registry.answer, parsed_eq]
    cases parsed text with
    | error e => rfl
    | ok record =>
      show (Ledger.created session (stored m) record).map _
        = ((Registry.created session m record).map _).map _
      rw [created_stored]
      cases Registry.created session m record <;> rfl
  | read uuid =>
    rw [Command.answer, Registry.answer, found_stored session hm]
    cases Registry.found session m uuid <;> rfl
  | update record =>
    rw [Command.answer, Registry.answer, replaced_stored session hm]
    cases Registry.replaced session m record <;> rfl
  | updateText text =>
    rw [Command.answer, Registry.answer, parsed_eq]
    cases parsed text with
    | error e => rfl
    | ok record =>
      show (Ledger.replaced session (stored m) record).map _
        = ((Registry.replaced session m record).map _).map _
      rw [replaced_stored session hm]
      cases Registry.replaced session m record <;> rfl
  | delete uuid =>
    rw [Command.answer, Registry.answer, removed_stored]
    cases Registry.removed session m uuid <;> rfl
  | list size bookmark =>
    rw [Command.answer, Registry.answer, listed_stored]
    cases Registry.listed session m size bookmark <;> rfl

section

variable {m m' : Registry} {session : Session}

/-- **The invariant of changes.**  Whatever a command does to a registry, its records stay under their
UUIDs. -/
theorem Filed.change (hm : Filed m) (h : Change m m') : Filed m' := by
  cases h with
  | nothing => exact hm
  | seeds => exact hm.enterAll Record.seeds
  | create _ _ | replace _ => exact hm.enter _
  | remove _ => exact hm.erase _

/-- Every operation keeps records under their own UUIDs. -/
theorem Filed.answer {command : Command} {reply : Reply} (hm : Filed m)
    (h : Registry.answer session m command = .ok (reply, m')) : Filed m' :=
  hm.change (change_of_answer h)

end

/-! ## Runs -/

section

variable {σ : Type} [Store σ] [LawfulStore σ]

/-- **One step.**  A store that holds what is stored of a registry answers as the registry does, and
holds afterwards what is stored of the registry afterwards. -/
theorem run_step {s : σ} {m : Registry} (hm : Filed m) (hs : Holds s (stored m)) (session : Session)
    (command : Command) :
    ((command.run session).run s).result = (Registry.step m session command).1 ∧
      Holds ((command.run session).run s).store (stored (Registry.step m session command).2) ∧
      Filed (Registry.step m session command).2 := by
  obtain ⟨hresult, hstore⟩ := run_answer hs session command
  rw [answer_stored hm] at hresult hstore
  unfold Registry.step
  -- a command that fails leaves the registry, and one that is answered keeps it filed
  cases h : Registry.answer session m command with
  | error e =>
    rw [h] at hresult hstore
    exact ⟨hresult, hstore, hm⟩
  | ok answer =>
    rw [h] at hresult hstore
    exact ⟨hresult, hstore, hm.answer h⟩

/-- **Simulation.**  By induction on the steps, with `Filed` carried along: the store answers as the
registry, and shows it afterwards. -/
theorem run_steps {s : σ} {m : Registry} (hm : Filed m) (hs : Holds s (stored m))
    (steps : List (Session × Command)) :
    (runAll s steps).1 = (Registry.run m steps).1 ∧
      Holds (runAll s steps).2 (stored (Registry.run m steps).2) := by
  induction steps generalizing s m with
  | nil => exact ⟨rfl, hs⟩
  | cons step steps ih =>
    obtain ⟨session, command⟩ := step
    obtain ⟨hresult, hstore, hfiled⟩ := run_step hm hs session command
    obtain ⟨hresults, hlast⟩ := ih hfiled hstore
    exact ⟨congrArg₂ List.cons hresult hresults, hlast⟩

/-- **Refinement.**  From an empty store, every run of commands, whoever calls and under whatever
modes, is answered as by the map of records, and the store holds what is stored of that map. -/
theorem run_refines_registry (s : σ) (hs : Holds s .empty) (steps : List (Session × Command)) :
    (runAll s steps).1 = (Registry.run .empty steps).1 ∧
      Holds (runAll s steps).2 (stored (Registry.run .empty steps).2) :=
  run_steps filed_empty hs steps

end

/-- The seeds are written, then a unit asks for one that it did not send, then nobody can say who
asks, and then nobody has to. -/
def shortRun : List (Session × Command) :=
  [(⟨.ofRole "HeadOfOperations", .rbac⟩, .init),
    (⟨.ofRole "IntelligenceUnit", .rbac⟩, .read "12345"),
    (⟨.failing "down", .rbac⟩, .delete "12345"),
    (⟨.failing "down", .openAccess⟩, .list 1 "CTI_5")]

/-- A store in memory and a database answer the same, which is read off the map of records. -/
theorem shortRun_answers :
    let answers := [.ok .done, .error (.forbidden .intelligenceUnit .read "12345"),
      .error (.identity ⟨"down"⟩), .ok (.page ⟨Record.seeds.drop 1, ""⟩)]
    (runAll MemoryStore.empty shortRun).1 = answers ∧
      (runAll (⟨.empty, ⟨0, "threat"⟩⟩ : DatabaseStore) shortRun).1 = answers := by
  have hmemory : Holds MemoryStore.empty .empty := (MemoryStore.holds_iff _ _).mpr rfl
  have hdatabase : Holds (⟨.empty, ⟨0, "threat"⟩⟩ : DatabaseStore) .empty :=
    (DatabaseStore.holds_iff _ _).mpr ⟨rfl, rfl⟩
  constructor
  · exact (run_refines_registry _ hmemory shortRun).1.trans (by rfl)
  · exact (run_refines_registry _ hdatabase shortRun).1.trans (by rfl)

end Ledger
end ThreatLedger
