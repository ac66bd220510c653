/-
  Where the required fields of stored records come from.

  1. **Completeness** — a record passes validation if none of its required fields is empty.  The seeds
     and what `create` stores pass it; an update is not validated.
  2. **Origins** — a step finds the records of a registry there, or enters complete ones, or the
     record of an update (`origin_of_answer`).
  3. **Runs** — from an empty store, by induction, every stored record has a UUID, and it is complete
     or was put there by an update of the run (`stored_complete_or_replacement`).  That an update may
     empty every other field is `emptying_update_stored`.
-/
import ThreatLedger.Proofs.Ledger.Integrity

namespace ThreatLedger.Ledger

open Registry

/-! ## Completeness -/

/-- A record passes validation exactly if none of its required fields is empty.  The access list is none
of these. -/
theorem validate_eq_ok_iff (record : Record) :
    validate record = .ok () ↔ ∀ f ∈ record.requiredFields, f.2 ≠ "" := by
  have hmissing : record.missingFields.isEmpty ↔ ∀ f ∈ record.requiredFields, f.2 ≠ "" := by
    rw [List.isEmpty_iff, Record.missingFields, List.map_eq_nil_iff, List.filter_eq_nil_iff]
    simp only [String.isEmpty_iff]
  rw [← hmissing, validate]
  split
  · next h => exact iff_of_true rfl h
  · next h => exact iff_of_false (by rintro ⟨⟩) h

theorem validate_of_missingFields {record : Record} (h : record.missingFields = []) :
    validate record = .ok () := if_pos (List.isEmpty_iff.mpr h)

/-- The record that a command puts in the place of another one, if it is an update. -/
def Command.replacement? : Command → Option Record
  | .update record => some record
  | .updateText text => (Record.parse text).toOption
  | .init | .create _ | .createText _ | .read _ | .delete _ | .list .. => none

/-! ## Origins -/

/-- Where a record of a registry comes from: it was in `m` under its UUID, it is complete, or it is the
one that an update put there. -/
inductive Origin (m : Registry) (command : Command) (uuid : String) (record : Record) : Prop
  | kept : m.get? uuid = some record → Origin m command uuid record
  | complete : validate record = .ok () → Origin m command uuid record
  | replacement : command.replacement? = some record → Origin m command uuid record

section

variable {m m' : Registry} {session : Session} {command : Command} {uuid : String}
  {record found : Record}

/-- What is found after a record was entered is that record, or was there before. -/
theorem origin_of_enter (h : (enter m record).get? uuid = some found)
    (hrecord : Origin m command uuid record) : Origin m command uuid found := by
  rw [Registry.enter, KeyMap.get?_insert] at h
  split at h
  · cases h
    exact hrecord
  · exact .kept h

/-- What is found after the seeds were entered was there before, or is one of the two, and both are
complete. -/
theorem origin_of_seeds (h : (Record.seeds.foldl enter m).get? uuid = some found) :
    Origin m command uuid found := by
  have hseeds : ∀ seed ∈ Record.seeds, validate seed = .ok () := by decide
  obtain ⟨hfirst, hrest⟩ := List.forall_mem_cons.mp hseeds
  obtain ⟨hsecond, -⟩ := List.forall_mem_cons.mp hrest
  have hfound : Origin (enter m _) command uuid found := origin_of_enter h (.complete hsecond)
  cases hfound with
  | kept h => exact origin_of_enter h (.complete hfirst)
  | complete h => exact .complete h
  | replacement h => exact .replacement h

/-- What is found after a record is created was there before, or is that record and complete. -/
theorem origin_of_created (h : Registry.created session m record = .ok m')
    (hget : m'.get? uuid = some found) : Origin m command uuid found := by
  unfold Registry.created at h
  split at h
  · next hfilled =>
    obtain ⟨_, -, h⟩ := bind_eq_ok.mp h
    split at h
    · cases h
    · cases h
      exact origin_of_enter hget (.complete (validate_of_missingFields hfilled))
  · cases h

/-- What is found after a record is replaced was there before, or is the replacement, be it complete or
not. -/
theorem origin_of_replaced (h : Registry.replaced session m record = .ok m')
    (hcommand : command.replacement? = some record) (hget : m'.get? uuid = some found) :
    Origin m command uuid found := by
  unfold Registry.replaced at h
  split at h
  · cases h
  · -- only the stored record is judged, so nothing is known of the fields of the new one
    obtain ⟨_, -, ⟨⟩⟩ := bind_eq_ok.mp h
    exact origin_of_enter hget (.replacement hcommand)

/-- What is found after a record was removed was there before: the removed UUID finds nothing. -/
theorem origin_of_removed {removed : String} (h : Registry.removed session m removed = .ok m')
    (hget : m'.get? uuid = some found) : Origin m command uuid found := by
  unfold Registry.removed at h
  split at h
  · cases h
  · obtain ⟨_, -, ⟨⟩⟩ := bind_eq_ok.mp h
    rw [KeyMap.get?_erase] at hget
    split at hget
    · cases hget
    · exact .kept hget

theorem parse_of_parsed {text : String} (h : parsed text = .ok record) :
    Record.parse text = .ok record := by
  unfold parsed at h
  split at h <;> cases h
  next hparse => exact hparse

/-- **Origins.**  After a command, every record was there before, or is complete, or was submitted by
the command as an update. -/
theorem origin_of_answer {reply : Reply} (h : Registry.answer session m command = .ok (reply, m'))
    (hget : m'.get? uuid = some found) : Origin m command uuid found := by
  cases command with
  | init =>
    obtain ⟨made, hmade, ⟨⟩⟩ := map_eq_ok.mp h
    obtain ⟨_, -, ⟨⟩⟩ := bind_eq_ok.mp hmade
    exact origin_of_seeds hget
  | create record =>
    obtain ⟨made, hmade, ⟨⟩⟩ := map_eq_ok.mp h
    exact origin_of_created hmade hget
  | createText text =>
    obtain ⟨made, hmade, ⟨⟩⟩ := map_eq_ok.mp h
    obtain ⟨record, -, hmade⟩ := bind_eq_ok.mp hmade
    exact origin_of_created hmade hget
  | read uuid =>
    obtain ⟨record, -, ⟨⟩⟩ := map_eq_ok.mp h
    exact .kept hget
  | update record =>
    obtain ⟨made, hmade, ⟨⟩⟩ := map_eq_ok.mp h
    exact origin_of_replaced hmade rfl hget
  -- the text holds the record that is submitted
  | updateText text =>
    obtain ⟨made, hmade, ⟨⟩⟩ := map_eq_ok.mp h
    obtain ⟨record, hparsed, hmade⟩ := bind_eq_ok.mp hmade
    have hcommand : (Command.updateText text).replacement? = some record := by
      rw [Command.replacement?, parse_of_parsed hparsed]
      rfl
    exact origin_of_replaced hmade hcommand hget
  | delete uuid =>
    obtain ⟨made, hmade, ⟨⟩⟩ := map_eq_ok.mp h
    exact origin_of_removed hmade hget
  | list size bookmark =>
    obtain ⟨page, -, ⟨⟩⟩ := map_eq_ok.mp h
    exact .kept hget

end

/-! ## Runs -/

/-- Every record of a registry is complete, or was submitted by an update of the run. -/
def Accounted (steps : List (Session × Command)) (m : Registry) : Prop :=
  ∀ uuid record, m.get? uuid = some record →
    validate record = .ok () ∨ ∃ step ∈ steps, step.2.replacement? = some record

/-- One command more: what it found in the registry is accounted for, and so is what it adds.  The
records that it leaves where they were have been accounted for before. -/
theorem accounted_step {m : Registry} {steps : List (Session × Command)} {session : Session}
    {command : Command} (hstep : (session, command) ∈ steps) (hm : Accounted steps m) :
    Accounted steps (Registry.step m session command).2 := by
  unfold Registry.step
  cases h : Registry.answer session m command with
  | error e => exact hm
  | ok answer =>
    intro uuid record hget
    cases origin_of_answer h hget with
    | kept hkept => exact hm uuid record hkept
    | complete hcomplete => exact .inl hcomplete
    | replacement hcommand => exact .inr ⟨_, hstep, hcommand⟩

theorem orderly_step {m : Registry} (hm : Orderly m) (session : Session) (command : Command) :
    Orderly (Registry.step m session command).2 := by
  unfold Registry.step
  cases h : Registry.answer session m command with
  | error e => exact hm
  | ok answer => exact hm.change (change_of_answer h)

/-- **The invariant of runs.**  By induction on the steps: every record is complete, or was put there by
an update of the run. -/
theorem accounted_run {m : Registry} {all steps : List (Session × Command)}
    (hsteps : ∀ step ∈ steps, step ∈ all) (hm : Orderly m) (haccounted : Accounted all m) :
    Orderly (Registry.run m steps).2 ∧ Accounted all (Registry.run m steps).2 := by
  induction steps generalizing m with
  | nil => exact ⟨hm, haccounted⟩
  | cons step steps ih =>
    obtain ⟨session, command⟩ := step
    obtain ⟨hstep, hsteps⟩ := List.forall_mem_cons.mp hsteps
    exact ih hsteps (orderly_step hm session command) (accounted_step hstep haccounted)

section

variable {σ : Type} [Store σ] [LawfulStore σ]

/-- **Required fields.**  From an empty store, after every run of commands, whoever calls and under
whatever modes: every stored record has a UUID, and if another one of its required fields is empty,
then an update of the run has submitted it that way.  Where updates submit complete records only, all
that is stored is therefore complete. -/
theorem stored_complete_or_replacement (s : σ) (hs : Holds s .empty)
    (steps : List (Session × Command)) :
    ∀ e ∈ Store.contents (runAll s steps).2, ∃ record, Record.decode e.2 = .ok record ∧
      record.uuid ≠ "" ∧
        ((∀ f ∈ record.requiredFields, f.2 ≠ "") ∨
          ∃ step ∈ steps, step.2.replacement? = some record) := by
  have hempty : Orderly .empty := ⟨filed_empty, rfl⟩
  obtain ⟨horderly, haccounted⟩ :=
    accounted_run (fun step (h : step ∈ steps) => h) hempty (by rintro uuid record ⟨⟩)
  obtain ⟨-, hlast⟩ := run_steps filed_empty hs steps
  intro e he
  rw [hlast.contents] at he
  obtain ⟨⟨uuid, record⟩, hmem, rfl⟩ := List.mem_map.mp he
  have hrecord := KeyMap.get?_eq_some_iff.mpr hmem
  refine ⟨record, Record.decode_encode record, fun hnone => ?_, ?_⟩
  · -- it is filed under its UUID, and nothing is filed under the empty one
    have huuid := horderly.filed uuid record hrecord
    rw [← huuid, hnone, horderly.unnamed] at hrecord
    cases hrecord
  · exact (haccounted uuid record hrecord).imp_left (validate_eq_ok_iff record).mp

end

/-- The first seed without its content locator. -/
def unlocatedSeed : Record :=
  { uuid := "12345"
    description := "Initial metadata entry 12345"
    timestamp := "2023-10-01T12:00:00Z"
    sender := "HeadOfOperations"
    cid := ""
    vaultKey := "vaultKey12345"
    sha256 := "sha256hash12345"
    access := ["HeadOfOperations", "IntelligenceUnit"] }

/-- The head of operations writes the seeds, and then takes the content locator of one away. -/
def unlocatingRun : List (Session × Command) :=
  [.init, .update unlocatedSeed].map (⟨.ofRole "HeadOfOperations", .rbac⟩, ·)

theorem unlocatingRun_run :
    Registry.run .empty unlocatingRun =
      ([.ok .done, .ok .done], enter (Record.seeds.foldl enter .empty) unlocatedSeed) := by
  rfl

/-- In a database, too, both commands succeed, and what is stored is complete but for the record that
the update has submitted. -/
theorem unlocatingRun_accounted :
    (runAll (DatabaseStore.empty "threat") unlocatingRun).1 = [.ok .done, .ok .done] ∧
      ∀ e ∈ Store.contents (runAll (DatabaseStore.empty "threat") unlocatingRun).2,
        ∃ record, Record.decode e.2 = .ok record ∧ record.uuid ≠ "" ∧
          ((∀ f ∈ record.requiredFields, f.2 ≠ "") ∨
            ∃ step ∈ unlocatingRun, step.2.replacement? = some record) := by
  have hs : Holds (DatabaseStore.empty "threat") .empty := ⟨_, .closed .empty ⟨0, "threat"⟩⟩
  refine ⟨?_, stored_complete_or_replacement _ hs unlocatingRun⟩
  rw [(run_steps filed_empty hs unlocatingRun).1, unlocatingRun_run]

/-- Required fields do not stay filled: an update is answered that leaves a record without its content
locator in the store. -/
theorem emptying_update_stored :
    (runAll MemoryStore.empty unlocatingRun).1 = [.ok .done, .ok .done] ∧
      ("CTI_12345", unlocatedSeed.encode) ∈
        Store.contents (runAll MemoryStore.empty unlocatingRun).2 ∧
      Record.decode unlocatedSeed.encode = .ok unlocatedSeed ∧
      validate unlocatedSeed = .error (.invalid (.emptyFields ["CID"])) := by
  have hs : Holds MemoryStore.empty .empty := (MemoryStore.holds_iff _ _).mpr rfl
  obtain ⟨hresults, hlast⟩ := run_steps filed_empty hs unlocatingRun
  rw [unlocatingRun_run] at hresults hlast
  refine ⟨hresults, ?_, Record.decode_encode _, by decide⟩
  rw [hlast.contents]
  have hfiled : (enter (Record.seeds.foldl enter .empty) unlocatedSeed).get? "12345"
      = some unlocatedSeed := (KeyMap.get?_insert ..).trans (if_pos rfl)
  exact List.mem_map_of_mem (KeyMap.get?_eq_some_iff.mp hfiled)

end ThreatLedger.Ledger
