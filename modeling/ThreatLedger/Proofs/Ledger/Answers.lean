/-
  What operations answer, and what they make of the entries of a store.

  1. **Operations** — for each operation, what it finds in the entries or makes of them.
  2. **Effects** — the operations on a reference store have these effects.
  3. **Commands** — `Command.answer` is what a command answers, with the entries afterwards; that is
     what it does on every lawful store (`run_answer`).
-/
import ThreatLedger.Proofs.Ledger.Bodies
import ThreatLedger.Proofs.Store.Effects

namespace ThreatLedger

namespace Ledger

/-! ## Operations -/

/-- The role that a request is admitted for. -/
def admitted (session : Session) (request : Request) : Except LedgerError Role := do
  let role ← callerRole session
  match session.mode.check role request with
  | .allow => .ok role
  | .deny denial => .error (refusal denial request)

/-- The record with a UUID among entries. -/
def lookUp (m : KeyMap Bytes) (uuid : String) : Except LedgerError Record :=
  match m.get? (Record.keyOf uuid) with
  | none => .error (.notFound .metadata uuid)
  | some value => decodeStored (Record.keyOf uuid) value

/-- The entries with a record filed under its key. -/
def filed (m : KeyMap Bytes) (record : Record) : KeyMap Bytes := m.insert record.key record.encode

/-- The entries with the seeds. -/
def seeded (session : Session) (m : KeyMap Bytes) : Except LedgerError (KeyMap Bytes) := do
  let _ ← admitted session .init
  .ok (Record.seeds.foldl filed m)

/-- The entries with a new record. -/
def created (session : Session) (m : KeyMap Bytes) (record : Record) :
    Except LedgerError (KeyMap Bytes) := do
  validate record
  let _ ← admitted session .create
  if (m.get? record.key).isSome then .error (.conflict .metadata record.uuid)
  else .ok (filed m record)

/-- The record that a caller who may see it reads. -/
def found (session : Session) (m : KeyMap Bytes) (uuid : String) : Except LedgerError Record := do
  let record ← lookUp m uuid
  let _ ← admitted session (.read record)
  .ok record

/-- The entries with a record replaced. -/
def replaced (session : Session) (m : KeyMap Bytes) (record : Record) :
    Except LedgerError (KeyMap Bytes) := do
  let stored ← lookUp m record.uuid
  let _ ← admitted session (.update stored)
  .ok (filed m record)

/-- The entries without a record. -/
def removed (session : Session) (m : KeyMap Bytes) (uuid : String) :
    Except LedgerError (KeyMap Bytes) :=
  if (m.get? (Record.keyOf uuid)).isSome then do
    let _ ← admitted session (.delete uuid)
    .ok (m.erase (Record.keyOf uuid))
  else .error (.notFound .metadata uuid)

/-- The records of entries. -/
def decodeAll (es : List Entry) : Except LedgerError (List Record) :=
  es.mapM fun e => decodeStored e.1 e.2

/-- One page of the records that a caller may see. -/
def listed (session : Session) (m : KeyMap Bytes) (size : Int) (bookmark : String) :
    Except LedgerError Page := do
  let role ← admitted session .list
  if size ≤ 0 then .error (.invalid (.pageSize size))
  else do
    let page := m.page (.all size bookmark) size.toNat
    let records ← decodeAll page.entries
    .ok ⟨records.filter (session.mode.canRead role), page.bookmark⟩

/-! ## Effects -/

section

variable {saved : Option (KeyMap Bytes)} {m : KeyMap Bytes}

/-- A judgement answers with the role that is admitted, and touches no entry.  What it reports of a
denial is not part of the answer. -/
theorem judge_finds (session : Session) (request : Request) :
    Finds saved (judge session request) m (admitted session request) := by
  refine finds_bind (finds_ofExcept _) fun role => ?_
  unfold authorize
  cases session.mode.check role request with
  | allow => exact runs_next (finds_pure ()) (finds_pure role)
  | deny denial =>
    have hrefused : Finds saved (do .report (.denied denial); .fail (refusal denial request)) m
        (.error (refusal denial request) : Except LedgerError Unit) :=
      runs_next (finds_report _) (finds_fail _)
    exact runs_stop hrefused _

theorem isStored_finds (key : String) : Finds saved (isStored key) m (.ok (m.get? key).isSome) :=
  runs_next (finds_get key) (finds_pure _)

/-- A record is loaded as it is looked up in the entries, its bytes decoded.  An absent key and bytes
that are no record are told apart by their errors. -/
theorem load_finds (uuid : String) : Finds saved (load uuid) m (lookUp m uuid) := by
  refine runs_next (finds_get _) ?_
  unfold lookUp
  cases m.get? (Record.keyOf uuid) with
  | none => exact finds_fail _
  | some value => exact finds_ofExcept _

/-- A record that is stored, and then a report. -/
theorem putRecord_makes (record : Record) (event : Event) :
    Makes saved (do putRecord record; .report event) m (.ok (filed m record)) :=
  runs_next (makes_put _ _) (finds_report event)

/-- By induction on the records: storing them files one after the other.  No `put` is refused by the
reference store, so the fold goes to its end. -/
theorem putRecords_makes (records : List Record) :
    Makes saved (records.forM putRecord) m (.ok (records.foldl filed m)) := by
  induction records generalizing m with
  | nil => exact finds_pure ()
  | cons record records ih => exact runs_next (makes_put _ _) ih

/-- Entries are decoded one after the other, up to the first that cannot be. -/
theorem decodeAll_cons (e : Entry) (es : List Entry) :
    decodeAll (e :: es) =
      decodeStored e.1 e.2 >>= fun record => (decodeAll es).map (record :: ·) := by
  unfold decodeAll
  rw [List.mapM_cons]
  rfl

/-- The records that a role may see, and how many it may not. -/
def sifted (mode : Mode) (role : Role) (records : List Record) : List Record × Nat :=
  (records.filter (mode.canRead role), records.countP fun r => !mode.canRead role r)

theorem sifted_shown {mode : Mode} {role : Role} {record : Record} (h : mode.canRead role record)
    (records : List Record) :
    sifted mode role (record :: records) =
      (record :: (sifted mode role records).1, (sifted mode role records).2) := by
  simp [sifted, h]

theorem sifted_hidden {mode : Mode} {role : Role} {record : Record}
    (h : ¬mode.canRead role record) (records : List Record) :
    sifted mode role (record :: records) =
      ((sifted mode role records).1, (sifted mode role records).2 + 1) := by
  simp [sifted, h]

/-- Sifting decodes all entries and keeps the records that the role may see.  The first entry that
cannot be decoded is the answer, whoever asks. -/
theorem sift_finds (mode : Mode) (role : Role) (es : List Entry) :
    Finds saved (sift mode role es) m ((decodeAll es).map (sifted mode role)) := by
  induction es with
  | nil => exact finds_pure _
  | cons e es ih =>
    refine runs_next (finds_entry e) ?_
    rw [decodeAll_cons]
    cases decodeStored e.1 e.2 with
    | error cause => exact runs_stop (finds_ofExcept _) _
    | ok record =>
      have hmap : ((decodeAll es).map (record :: ·)).map (sifted mode role)
          = decodeAll es >>= fun records => .ok (sifted mode role (record :: records)) := by
        cases decodeAll es <;> rfl
      refine runs_next (finds_ofExcept _) ?_
      show Finds _ _ _ (((decodeAll es).map (record :: ·)).map (sifted mode role))
      rw [hmap]
      by_cases hr : mode.canRead role record
      · -- the record is shown
        simp only [hr, if_true, sifted_shown hr]
        exact finds_bind_map ih fun records => finds_pure _
      · -- the record is hidden, and counted
        simp only [hr, sifted_hidden hr]
        exact runs_next (finds_report _) (finds_bind_map ih fun records => finds_pure _)

end

section

variable {m : KeyMap Bytes} (session : Session)

/-- The seeds are written as `seeded` has it, or the request is refused. -/
theorem init_makes : Makes none (init session) m (seeded session m) := by
  refine makes_atomically (makes_bind (judge_finds session .init) fun role => ?_)
  exact runs_next (putRecords_makes _) (finds_report _)

/-- A record is created as `created` has it: complete, admitted and under a key that is free.  The
checks are made in this order, and the first that fails is the answer. -/
theorem create_makes (record : Record) :
    Makes none (create session record) m (created session m record) := by
  refine makes_bind (finds_ofExcept _) fun _ => makes_atomically ?_
  refine makes_bind (judge_finds session .create) fun role => ?_
  refine runs_next (isStored_finds record.key) ?_
  cases (m.get? record.key).isSome with
  | true => exact runs_stop (finds_fail _) _
  | false => exact putRecord_makes record _

/-- A record is read as `found` has it: looked up first, and then judged. -/
theorem read_finds (uuid : String) : Finds none (read session uuid) m (found session m uuid) := by
  refine finds_atomically (finds_bind (load_finds uuid) fun record => ?_)
  exact finds_bind (judge_finds session (.read record)) fun _ => finds_pure record

/-- A record is replaced as `replaced` has it: the stored one is looked up and judged, and the submitted
one is filed, without being asked whether it is complete. -/
theorem update_makes (record : Record) :
    Makes none (update session record) m (replaced session m record) := by
  refine makes_atomically (makes_bind (load_finds record.uuid) fun stored => ?_)
  refine makes_bind (judge_finds session (.update stored)) fun role => ?_
  by_cases hv : rewritesVisibility stored record
  · simp only [hv, if_true]
    exact runs_next (finds_report _) (putRecord_makes record _)
  · simp only [hv]
    exact putRecord_makes record _

/-- A record is removed as `removed` has it: looked for first, and then judged.  Its bytes are never
decoded, so a corrupt one can be removed as well. -/
theorem delete_makes (uuid : String) :
    Makes none (delete session uuid) m (removed session m uuid) := by
  refine makes_atomically (runs_next (isStored_finds (Record.keyOf uuid)) ?_)
  unfold removed
  cases (m.get? (Record.keyOf uuid)).isSome with
  | false => exact runs_stop (finds_fail _) _
  | true =>
    refine makes_bind (judge_finds session (.delete uuid)) fun role => ?_
    exact runs_next (makes_delete _) (finds_report _)

/-- A page is listed as `listed` has it: judged, measured, cut, and sifted.  A caller who may not list
is told so before the size is looked at. -/
theorem list_finds (size : Int) (bookmark : String) :
    Finds none (list session size bookmark) m (listed session m size bookmark) := by
  refine finds_atomically (finds_bind (judge_finds session .list) fun role => ?_)
  by_cases hs : size ≤ 0
  · simp only [hs, if_true]
    exact runs_stop (finds_fail _) _
  · simp only [hs, if_false]
    have hlimit : (Scan.all size bookmark).limit = .ok size.toNat := if_neg hs
    refine runs_next (finds_scan hlimit) ?_
    refine finds_bind_map (sift_finds session.mode role _) fun records => ?_
    exact runs_next (finds_report _) (finds_pure _)

end

/-! ## Commands -/

/-- What a command answers on the entries of a store, with the entries afterwards. -/
def Command.answer (session : Session) (m : KeyMap Bytes) :
    Command → Except LedgerError (Reply × KeyMap Bytes)
  | .init => (seeded session m).map (.done, ·)
  | .create record => (created session m record).map (.done, ·)
  | .createText text => (parseRecord text >>= created session m).map (.done, ·)
  | .read uuid => (found session m uuid).map (.record ·, m)
  | .update record => (replaced session m record).map (.done, ·)
  | .updateText text => (parseRecord text >>= replaced session m).map (.done, ·)
  | .delete uuid => (removed session m uuid).map (.done, ·)
  | .list size bookmark => (listed session m size bookmark).map (.page ·, m)

/-- The entries behind an answer: those it gives, or the ones from before it when it is an error. -/
def entriesAfter (m : KeyMap Bytes) (r : Except LedgerError (Reply × KeyMap Bytes)) :
    KeyMap Bytes :=
  match r with
  | .ok (_, m') => m'
  | .error _ => m

section

variable {α : Type} {m : KeyMap Bytes}

/-- An action gives an answer, and leaves the entries that stand behind it. -/
abbrev Gives (x : Action ReferenceStore LedgerError Reply) (m : KeyMap Bytes)
    (r : Except LedgerError (Reply × KeyMap Bytes)) : Prop :=
  Runs none x m (r.map (·.1)) (entriesAfter m r)

theorem gives_of_makes {x : Action ReferenceStore LedgerError Unit}
    {r : Except LedgerError (KeyMap Bytes)} (hx : Makes none x m r) :
    Gives (done x) m (r.map (.done, ·)) := by
  intro space
  obtain ⟨events, hx⟩ := hx space
  unfold done
  rw [Action.run_map, hx]
  cases r <;> exact ⟨events, rfl⟩

theorem gives_of_finds {x : Action ReferenceStore LedgerError α} {r : Except LedgerError α}
    (f : α → Reply) (hx : Finds none x m r) : Gives (f <$> x) m (r.map fun a => (f a, m)) := by
  intro space
  obtain ⟨events, hx⟩ := hx space
  rw [Action.run_map, hx]
  cases r <;> exact ⟨events, rfl⟩

/-- **Commands** give their answers: what a command replies and leaves behind is a function of the
session and the entries. -/
theorem run_gives (session : Session) (command : Command) (m : KeyMap Bytes) :
    Gives (command.run session) m (command.answer session m) := by
  cases command with
  | init => exact gives_of_makes (init_makes session)
  | create record => exact gives_of_makes (create_makes session record)
  | createText text =>
    exact gives_of_makes (makes_bind (finds_ofExcept _) fun record => create_makes session record)
  | read uuid => exact gives_of_finds _ (read_finds session uuid)
  | update record => exact gives_of_makes (update_makes session record)
  | updateText text =>
    exact gives_of_makes (makes_bind (finds_ofExcept _) fun record => update_makes session record)
  | delete uuid => exact gives_of_makes (delete_makes session uuid)
  | list size bookmark => exact gives_of_finds _ (list_finds session size bookmark)

end

/-- **Answers.**  On every lawful store a command answers what `Command.answer` says, and the store
holds the entries that stand behind the answer. -/
theorem run_answer {σ : Type} [Store σ] [LawfulStore σ] {s : σ} {m : KeyMap Bytes} (hs : Holds s m)
    (session : Session) (command : Command) :
    ((command.run session).run s).result = (command.answer session m).map (·.1) ∧
      Holds ((command.run session).run s).store (entriesAfter m (command.answer session m)) :=
  (run_gives session command m).holds (tracks_run LawfulStore.simulates session command) hs

end Ledger
end ThreatLedger
