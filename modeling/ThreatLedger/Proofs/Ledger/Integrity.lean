/-
  What a store holds in the course of a run, whoever calls and whatever is refused.

  1. **Answers** — an answer is apt if it names no other UUID than the one that was asked for, and
     is not about bytes that hold no record (`Apt`).  Every answer of a registry is.
  2. **Refusals** — under refusals that let invocations end, a command is answered as without them,
     or fails with an error of the store and changes nothing (`run_refused`).
  3. **Runs** — from an empty store every entry is the encoding of a record under its key, after
     every run (`runs_keep_entries`).
-/
import Mathlib.Data.List.Forall2
import ThreatLedger.Proofs.Ledger.Refinement

namespace ThreatLedger.Ledger

open Registry RefusingStore

/-! ## Answers -/

/-- The UUID that a command asks for, if it asks for one. -/
def Command.target? : Command → Option String
  | .init | .list .. => none
  | .create record | .update record => some record.uuid
  | .createText text | .updateText text => (Record.parse text).toOption.map (·.uuid)
  | .read uuid | .delete uuid => some uuid

/-- An error that names no UUID but a target.  That stored bytes hold no record is none of them. -/
inductive Fits (target : Option String) : LedgerError → Prop
  | parse {subject cause} : Fits target (.parse subject cause)
  | invalid {flaw} : Fits target (.invalid flaw)
  | roleMissing : Fits target .roleMissing
  | identity {failure} : Fits target (.identity failure)
  | unnamed {role operation} : Fits target (.unauthorized ⟨role, operation, none⟩)
  | unauthorized {role operation} : Fits target (.unauthorized ⟨role, operation, target⟩)
  | forbidden {role operation uuid} : target = some uuid → Fits target (.forbidden role operation uuid)
  | conflict {subject id} : target = some id → Fits target (.conflict subject id)
  | notFound {subject id} : target = some id → Fits target (.notFound subject id)
  | store {error} : Fits target (.store error)

/-- An answer whose record, if it has one, has the UUID of the target, or an error that fits. -/
inductive Apt (target : Option String) : Except LedgerError Reply → Prop
  | done : Apt target (.ok .done)
  | record {record : Record} : target = some record.uuid → Apt target (.ok (.record record))
  | page {page} : target = none → Apt target (.ok (.page page))
  | error {e} : Fits target e → Apt target (.error e)

section

variable {m : Registry} {session : Session} {target : Option String}

theorem Apt.ne_corrupt {result : Except LedgerError Reply} (h : Apt target result) (key : String)
    (cause : Json.Error) : result ≠ .error (.corrupt key cause) := by
  rintro rfl
  cases h with
  | error h => cases h

/-- A caller without a role is answered with that, or with the failure of the provider. -/
theorem fits_of_asking {e : LedgerError} (h : asking session = .error e) : Fits target e := by
  unfold asking at h
  split at h
  · cases h
  · split at h <;> cases h
    · exact .identity
    · exact .roleMissing

/-- A check fails because of who asks, or with the refusal that it was given.  So the refusal is all
that has to be looked at in each operation. -/
theorem fits_of_checked {request : Request} {refused : Role → LedgerError} {e : LedgerError}
    (hrefused : ∀ role, Fits target (refused role))
    (h : checked session request refused = .error e) : Fits target e := by
  unfold checked at h
  cases hasking : asking session with
  | error e' =>
    rw [hasking] at h
    cases h
    exact fits_of_asking hasking
  | ok name =>
    rw [hasking] at h
    change ite _ _ _ = _ at h
    split at h <;> cases h
    exact hrefused _

theorem fits_of_seeded {e : LedgerError} (h : Registry.seeded session m = .error e) :
    Fits target e := by
  rcases bind_eq_error.mp h with h | ⟨_, -, ⟨⟩⟩
  exact fits_of_checked (fun _ => .unnamed) h

/-- The errors of `create` are about the record that is submitted: incomplete, denied, or a
duplicate. -/
theorem fits_of_created {record : Record} {e : LedgerError}
    (h : Registry.created session m record = .error e) : Fits (some record.uuid) e := by
  unfold Registry.created at h
  split at h
  · rcases bind_eq_error.mp h with h | ⟨_, -, h⟩
    · exact fits_of_checked (fun _ => .unnamed) h
    · split at h <;> cases h
      exact .conflict rfl
  · cases h
    exact .invalid

/-- The errors of `read` are about the UUID that is asked for: absent or forbidden.  That the stored
record has that UUID is the invariant of the registry. -/
theorem fits_of_found {uuid : String} {e : LedgerError}
    (h : Registry.found session m uuid = .error e) : Fits (some uuid) e := by
  unfold Registry.found at h
  split at h
  · cases h
    exact .notFound rfl
  · rcases bind_eq_error.mp h with h | ⟨_, -, ⟨⟩⟩
    exact fits_of_checked (fun _ => .forbidden rfl) h

/-- The errors of `update` are about the UUID of the record: absent or forbidden. -/
theorem fits_of_replaced {record : Record} {e : LedgerError}
    (h : Registry.replaced session m record = .error e) : Fits (some record.uuid) e := by
  unfold Registry.replaced at h
  split at h
  · cases h
    exact .notFound rfl
  · rcases bind_eq_error.mp h with h | ⟨_, -, ⟨⟩⟩
    exact fits_of_checked (fun _ => .forbidden rfl) h

/-- The errors of `delete` are about the UUID that is to be removed: absent, or denied. -/
theorem fits_of_removed {uuid : String} {e : LedgerError}
    (h : Registry.removed session m uuid = .error e) : Fits (some uuid) e := by
  unfold Registry.removed at h
  split at h
  · cases h
    exact .notFound rfl
  · rcases bind_eq_error.mp h with h | ⟨_, -, ⟨⟩⟩
    exact fits_of_checked (fun _ => .unauthorized) h

/-- The errors of `list` are a denial and a page size.  No record is corrupt in a registry, so that no
page fails for what is stored. -/
theorem fits_of_listed {size : Int} {bookmark : String} {e : LedgerError}
    (h : Registry.listed session m size bookmark = .error e) : Fits target e := by
  rcases bind_eq_error.mp h with h | ⟨_, -, h⟩
  · exact fits_of_checked (fun _ => .unnamed) h
  · split at h <;> cases h
    exact .invalid

theorem fits_of_parsed {text : String} {e : LedgerError} (h : parsed text = .error e) :
    Fits target e := by
  unfold parsed at h
  split at h <;> cases h
  exact .parse

/-- A text asks for the UUID of the record that it holds; a text that holds none has no target. -/
theorem target_of_parsed {text : String} {record : Record} (h : parsed text = .ok record) :
    (Record.parse text).toOption.map (·.uuid) = some record.uuid := by
  unfold parsed at h
  split at h <;> cases h
  next hparse => rw [hparse]; rfl

/-- **Errors** of every command fit its target.  The cases are those of the commands, and each is one of
the lemmas above. -/
theorem fits_of_answer {command : Command} {e : LedgerError}
    (h : Registry.answer session m command = .error e) : Fits command.target? e := by
  cases command with
  | init => exact fits_of_seeded (map_eq_error.mp h)
  | create record => exact fits_of_created (map_eq_error.mp h)
  | createText text =>
    rcases bind_eq_error.mp (map_eq_error.mp h) with h | ⟨record, hrecord, h⟩
    · exact fits_of_parsed h
    · rw [Command.target?, target_of_parsed hrecord]
      exact fits_of_created h
  | read uuid => exact fits_of_found (map_eq_error.mp h)
  | update record => exact fits_of_replaced (map_eq_error.mp h)
  | updateText text =>
    rcases bind_eq_error.mp (map_eq_error.mp h) with h | ⟨record, hrecord, h⟩
    · exact fits_of_parsed h
    · rw [Command.target?, target_of_parsed hrecord]
      exact fits_of_replaced h
  | delete uuid => exact fits_of_removed (map_eq_error.mp h)
  | list size bookmark => exact fits_of_listed (map_eq_error.mp h)

/-- A record that is answered has the UUID that was asked for, because it is filed under it and nothing
else puts it there. -/
theorem uuid_of_found (hm : Filed m) {uuid : String} {record : Record}
    (h : Registry.found session m uuid = .ok record) : record.uuid = uuid := by
  unfold Registry.found at h
  split at h
  · cases h
  · next held hheld =>
    obtain ⟨_, -, ⟨⟩⟩ := bind_eq_ok.mp h
    exact hm uuid record hheld

/-- **Answers** of a registry are apt: a record that is read has the UUID that was asked for, and an
error fits the target of the command. -/
theorem apt_step (hm : Filed m) (session : Session) (command : Command) :
    Apt command.target? (Registry.step m session command).1 := by
  unfold Registry.step
  cases h : Registry.answer session m command with
  | error e => exact .error (fits_of_answer h)
  | ok answer =>
    -- only a read answers with a record, and that has to be the one that was asked for
    cases command with
    | init | create | createText | update | updateText | delete =>
      obtain ⟨_, -, rfl⟩ := map_eq_ok.mp h
      exact .done
    | read uuid =>
      obtain ⟨record, hfound, rfl⟩ := map_eq_ok.mp h
      exact .record (congrArg some (uuid_of_found hm hfound).symm)
    | list size bookmark =>
      obtain ⟨page, -, rfl⟩ := map_eq_ok.mp h
      exact .page rfl

end

/-! ## Refusals -/

section

variable {σ : Type} [Store σ] [LawfulStore σ]

/-- **Refusals.**  Under refusals that let invocations end, a command is answered as without them, or
fails with an error of the store and changes nothing.  The schedule stays the same. -/
theorem run_refused {s : RefusingStore σ} {m : KeyMap Bytes} (hs : Holds s.store m)
    (hends : s.refuses.LetsEnd) (session : Session) (command : Command) :
    let o := (command.run session).run s
    o.store.refuses = s.refuses ∧
      (o.result = (command.answer session m).map (·.1) ∧
          Holds o.store.store (entriesAfter m (command.answer session m)) ∨
        (∃ e, o.result = .error (.store e)) ∧ Holds o.store.store m) := by
  obtain ⟨space, hshows⟩ := hs
  -- the reference store under the same schedule, with the calls that were counted so far
  let t : RefusingStore ReferenceStore := ⟨⟨m, none, space⟩, s.refuses, s.calls⟩
  have simulates := simulates_alike (LawfulStore.simulates (σ := σ))
  have hm := (Ledger.tracks_run simulates session command).matches (t := t) ⟨hshows, rfl, rfl⟩
  have hstore := hm.store.store
  obtain ⟨events, hgives⟩ := run_gives session command m space
  obtain ⟨-, hy | hy⟩ := Ledger.endures_run session command s.refuses hends
    (s := t) (t := t.store) ⟨rfl, rfl⟩ rfl
  · -- no refusal was met, or the operation got by it
    rw [hy.store.store, hgives] at hstore
    refine ⟨hm.store.refuses.trans hy.store.refuses, .inl ⟨?_, space, hstore⟩⟩
    rw [hm.result, hy.result, hgives]
  · -- a refusal was met, and what had been written was taken back
    obtain ⟨⟨e, he⟩, habove⟩ := hy
    rw [habove.store] at hstore
    exact ⟨hm.store.refuses.trans habove.refuses, .inr ⟨⟨e, hm.result.trans he⟩, space, hstore⟩⟩

end

/-! ## Runs -/

/-- Every record of a registry is under its own UUID, which is never empty. -/
structure Orderly (m : Registry) : Prop where
  filed : Filed m
  unnamed : m.get? "" = none

/-- A complete record has a UUID, as that is one of the required fields. -/
theorem uuid_ne_of_complete {record : Record} (h : record.missingFields = []) :
    record.uuid ≠ "" := by
  intro he
  have hmissing : "UUID" ∈ record.missingFields := by
    unfold Record.missingFields Record.requiredFields
    simp [he]
  rw [h] at hmissing
  exact List.not_mem_nil hmissing

section

variable {m m' : Registry}

/-- An orderly registry stays orderly with a record more, if that has a UUID. -/
theorem Orderly.enter (h : Orderly m) {record : Record} (hne : record.uuid ≠ "") :
    Orderly (Registry.enter m record) where
  filed := h.filed.enter record
  unnamed := by rw [Registry.enter, KeyMap.get?_insert, if_neg hne.symm, h.unnamed]

theorem Orderly.erase (h : Orderly m) (uuid : String) : Orderly (m.erase uuid) where
  filed := h.filed.erase uuid
  unnamed := by rw [KeyMap.get?_erase, h.unnamed, ite_self]

/-- An update is not checked for completeness, but what it replaces has a UUID, and it is the same one.
So no change enters a record without one. -/
theorem Orderly.change (h : Orderly m) (hchange : Change m m') : Orderly m' := by
  cases hchange with
  | nothing => exact h
  | seeds => exact (h.enter (by decide)).enter (by decide)
  | create hcomplete _ => exact h.enter (uuid_ne_of_complete hcomplete)
  | replace hheld =>
    -- nothing is filed under the empty UUID that a record without one would replace
    refine h.enter fun he => ?_
    rw [he, h.unnamed] at hheld
    cases hheld
  | remove _ => exact h.erase _

end

/-- Every key is the one of the record whose encoding it holds, and that record is decoded from it. -/
def WellKept (m : KeyMap Bytes) : Prop :=
  ∀ key value, m.get? key = some value →
    ∃ record : Record, record.uuid ≠ "" ∧ key = "CTI_" ++ record.uuid ∧ value = record.encode ∧
      Record.decode value = .ok record

/-- No two keys hold records of the same UUID. -/
def OneKeyEach (m : KeyMap Bytes) : Prop :=
  ∀ key key' value value' record record', m.get? key = some value → m.get? key' = some value' →
    Record.decode value = .ok record → Record.decode value' = .ok record' →
    record.uuid = record'.uuid → key = key'

/-- The entries of an orderly registry are well kept: every value is the encoding of a record, under its
own key. -/
theorem Orderly.wellKept {m : Registry} (h : Orderly m) : WellKept (stored m) := by
  intro key value hget
  obtain ⟨⟨uuid, record⟩, hmem, he⟩ := List.mem_map.mp (KeyMap.get?_eq_some_iff.mp hget)
  obtain ⟨rfl, rfl⟩ := Prod.mk.inj he
  have hrecord : m.get? uuid = some record := KeyMap.get?_eq_some_iff.mpr hmem
  cases h.filed uuid record hrecord
  refine ⟨record, fun hempty => ?_, rfl, rfl, Record.decode_encode record⟩
  rw [hempty, h.unnamed] at hrecord
  cases hrecord

/-- No two entries are of one UUID: the key of each is made of the UUID of its record, and of nothing
else.  This does not go by the order of the keys. -/
theorem WellKept.oneKeyEach {m : KeyMap Bytes} (h : WellKept m) : OneKeyEach m := by
  intro key key' value value' record record' hget hget' hdecode hdecode' huuid
  obtain ⟨found, -, hkey, -, hfound⟩ := h key value hget
  obtain ⟨found', -, hkey', -, hfound'⟩ := h key' value' hget'
  cases hdecode.symm.trans hfound
  cases hdecode'.symm.trans hfound'
  rw [hkey, hkey', huuid]

section

variable {σ : Type} [Store σ] [LawfulStore σ]

/-- **One step.**  What is stored of an orderly registry becomes what is stored of another one, and the
answer is apt. -/
theorem step_keeps_entries {s : RefusingStore σ} {m : Registry} (hm : Orderly m)
    (hs : Holds s.store (stored m)) (hends : s.refuses.LetsEnd) (session : Session)
    (command : Command) :
    let o := (command.run session).run s
    o.store.refuses = s.refuses ∧ Apt command.target? o.result ∧
      ∃ m', Orderly m' ∧ Holds o.store.store (stored m') := by
  obtain ⟨hrefuses, ⟨hresult, hstore⟩ | ⟨⟨e, he⟩, hstore⟩⟩ := run_refused hs hends session command
  · -- nothing was refused that matters: the registry gives the answer and the change
    have hapt := apt_step hm.filed session command
    rw [answer_stored hm.filed] at hresult hstore
    unfold Registry.step at hapt
    cases h : Registry.answer session m command with
    | error e =>
      rw [h] at hresult hstore hapt
      exact ⟨hrefuses, hresult ▸ hapt, m, hm, hstore⟩
    | ok answer =>
      rw [h] at hresult hstore hapt
      exact ⟨hrefuses, hresult ▸ hapt, _, hm.change (change_of_answer h), hstore⟩
  · exact ⟨hrefuses, he ▸ .error .store, m, hm, hstore⟩

/-- **The invariant of runs.**  Under refusals that let invocations end, the answers are apt and an
orderly registry is shown afterwards; by induction on the commands. -/
theorem run_keeps_entries {s : RefusingStore σ} {m : Registry} (hm : Orderly m)
    (hs : Holds s.store (stored m)) (hends : s.refuses.LetsEnd)
    (steps : List (Session × Command)) :
    List.Forall₂ (fun step result => Apt step.2.target? result) steps (runAll s steps).1 ∧
      ∃ m', Orderly m' ∧ Holds (runAll s steps).2.store (stored m') := by
  induction steps generalizing s m with
  | nil => exact ⟨.nil, m, hm, hs⟩
  | cons step steps ih =>
    obtain ⟨session, command⟩ := step
    obtain ⟨hrefuses, hapt, m', hm', hs'⟩ := step_keeps_entries hm hs hends session command
    obtain ⟨hapts, hlast⟩ := ih hm' hs' (hrefuses ▸ hends)
    exact ⟨.cons hapt hapts, hlast⟩

/-- **Integrity.**  From an empty store, after every run of commands, whoever calls and under whatever
modes, and whatever is refused but the ends of invocations: every entry is the encoding of a record
under its key, no UUID is under two keys, every answer is about the UUID that was asked for, and none
says that stored bytes hold no record. -/
theorem runs_keep_entries (s : RefusingStore σ) (hs : Holds s.store .empty)
    (hends : s.refuses.LetsEnd) (steps : List (Session × Command)) :
    (∃ m, Holds (runAll s steps).2.store m ∧ WellKept m ∧ OneKeyEach m) ∧
      List.Forall₂
        (fun step result => Apt step.2.target? result ∧ ∀ key cause, result ≠ .error (.corrupt key cause))
        steps (runAll s steps).1 := by
  obtain ⟨hapts, m, hm, hlast⟩ := run_keeps_entries ⟨filed_empty, rfl⟩ hs hends steps
  exact ⟨⟨_, hlast, hm.wellKept, hm.wellKept.oneKeyEach⟩,
    hapts.imp fun _ _ hapt => ⟨hapt, hapt.ne_corrupt⟩⟩

end

/-- The seeds are written twice, and then one of them is deleted by a caller whom nobody has to know. -/
def seedingRun : List (Session × Command) :=
  [(⟨.ofRole "HeadOfOperations", .rbac⟩, .init), (⟨.ofRole "HeadOfOperations", .rbac⟩, .init),
    (⟨.failing "down", .openAccess⟩, .delete "12345")]

/-- A database that refuses every put but the first three. -/
def threePuts : RefusingStore DatabaseStore :=
  .ofStore (.empty "threat") (.after fun call => if call = .put then some 3 else none)

/-- The second seed is not written again, and the first one, which was, is taken back. -/
theorem seedingRun_keeps_entries :
    let results := [.ok .done, .error (.store (.refused .put)), .ok .done]
    (runAll threePuts seedingRun).1 = results ∧
      (∃ m, Holds (runAll threePuts seedingRun).2.store m ∧ WellKept m ∧ OneKeyEach m) ∧
      List.Forall₂ (fun step result => Apt step.2.target? result) seedingRun results := by
  have hs : Holds threePuts.store .empty := ⟨_, .closed .empty ⟨0, "threat"⟩⟩
  have hends : threePuts.refuses.LetsEnd := fun _ => ⟨rfl, rfl⟩
  have hresults : (runAll threePuts seedingRun).1
      = [.ok .done, .error (.store (.refused .put)), .ok .done] := by rfl
  obtain ⟨hkept, hapts⟩ := runs_keep_entries threePuts hs hends seedingRun
  exact ⟨hresults, hkept, hresults ▸ hapts.imp fun _ _ => And.left⟩

end ThreatLedger.Ledger
