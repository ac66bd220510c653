/-
  The ledger as a map of records.

  1. **Checks** — a request is answered with an error of its own if the session has no name to ask
     under, or if the table of rules does not allow it to that name.
  2. **Operations** — on a map from UUIDs to records, each operation as a list of checks in a fixed
     order, and then a single change of the map.
  3. **Runs** — commands one after the other, each in a session of its own: callers and modes may
     change from one to the next.
  4. **Changes** — `Change` has one constructor for each way in which a command that is answered
     changes a registry.

  Nothing here is about bytes, JSON or invocations; keys are only seen as bookmarks.
-/
import ThreatLedger.Proofs.Ledger.Admission

namespace ThreatLedger.Ledger

/-- A map from UUIDs to records. -/
abbrev Registry := KeyMap Record

namespace Registry

/-! ## Checks -/

/-- The name under which a session asks, if its mode allows the request to that name; `refused` is
the error for a role that it is not allowed to. -/
def checked (session : Session) (request : Request) (refused : Role → LedgerError) :
    Except LedgerError String := do
  let name ← asking session
  if session.mode.Allows name request then .ok name else .error (refused (.ofName name))

/-! ## Operations -/

/-- The map with a record under its UUID. -/
def enter (m : Registry) (record : Record) : Registry := m.insert record.uuid record

/-- The map with the seeds. -/
def seeded (session : Session) (m : Registry) : Except LedgerError Registry := do
  let _ ← checked session .init fun role => .unauthorized ⟨role, .init, none⟩
  .ok (Record.seeds.foldl enter m)

/-- The map with a new record.  What is incomplete is found first, then who asks, then whether the
UUID is free. -/
def created (session : Session) (m : Registry) (record : Record) : Except LedgerError Registry :=
  if record.missingFields = [] then do
    let _ ← checked session .create fun role => .unauthorized ⟨role, .create, none⟩
    match m.get? record.uuid with
    | some _ => .error (.conflict .metadata record.uuid)
    | none => .ok (enter m record)
  else .error (.invalid (.emptyFields record.missingFields))

/-- The record with a UUID, if there is one and whoever asks may see it. -/
def found (session : Session) (m : Registry) (uuid : String) : Except LedgerError Record :=
  match m.get? uuid with
  | none => .error (.notFound .metadata uuid)
  | some record => do
    let _ ← checked session (.read record) fun role => .forbidden role .read uuid
    .ok record

/-- The map with a record in the place of the one with its UUID, which is the one that is judged. -/
def replaced (session : Session) (m : Registry) (record : Record) : Except LedgerError Registry :=
  match m.get? record.uuid with
  | none => .error (.notFound .metadata record.uuid)
  | some held => do
    let _ ← checked session (.update held) fun role => .forbidden role .update record.uuid
    .ok (enter m record)

/-- The map without a UUID that is in it. -/
def removed (session : Session) (m : Registry) (uuid : String) : Except LedgerError Registry :=
  match m.get? uuid with
  | none => .error (.notFound .metadata uuid)
  | some _ => do
    let _ ← checked session (.delete uuid) fun role => .unauthorized ⟨role, .delete, some uuid⟩
    .ok (m.erase uuid)

/-- One page of the map: of the records from a bookmark on as many as fit, without those that
whoever asks may not see, and the bookmark of the record behind them. -/
def listed (session : Session) (m : Registry) (size : Int) (bookmark : String) :
    Except LedgerError Page := do
  let name ← checked session .list fun role => .unauthorized ⟨role, .list, none⟩
  if size ≤ 0 then .error (.invalid (.pageSize size))
  else
    let onward := m.entries.filter fun e => bookmark ≤ "CTI_" ++ e.1
    .ok ⟨((onward.take size.toNat).map (·.2)).filter fun record =>
        session.mode.Allows name (.read record),
      (onward[size.toNat]?.map fun e => "CTI_" ++ e.1).getD ""⟩

/-- The record that a text holds. -/
def parsed (text : String) : Except LedgerError Record :=
  match Record.parse text with
  | .error cause => .error (.parse .metadata cause)
  | .ok record => .ok record

/-- What a command answers, with the map afterwards. -/
def answer (session : Session) (m : Registry) : Command → Except LedgerError (Reply × Registry)
  | .init => (seeded session m).map (.done, ·)
  | .create record => (created session m record).map (.done, ·)
  | .createText text => (parsed text >>= created session m).map (.done, ·)
  | .read uuid => (found session m uuid).map (.record ·, m)
  | .update record => (replaced session m record).map (.done, ·)
  | .updateText text => (parsed text >>= replaced session m).map (.done, ·)
  | .delete uuid => (removed session m uuid).map (.done, ·)
  | .list size bookmark => (listed session m size bookmark).map (.page ·, m)

/-! ## Runs -/

/-- One command: what it answers, and the map afterwards, which is the same as before if it
failed. -/
def step (m : Registry) (session : Session) (command : Command) :
    Except LedgerError Reply × Registry :=
  match answer session m command with
  | .error e => (.error e, m)
  | .ok (reply, m') => (.ok reply, m')

/-- The answers to commands one after the other, and the map afterwards. -/
def run (m : Registry) : List (Session × Command) → List (Except LedgerError Reply) × Registry
  | [] => ([], m)
  | (session, command) :: steps =>
    let (result, m') := step m session command
    let (results, last) := run m' steps
    (result :: results, last)

end Registry

/-! ## Changes -/

open Registry

/-- What a command that is answered makes of a registry. -/
inductive Change (m : Registry) : Registry → Prop
  | nothing : Change m m
  | seeds : Change m (Record.seeds.foldl enter m)
  | create {record : Record} : record.missingFields = [] → m.get? record.uuid = none →
    Change m (enter m record)
  | replace {record held : Record} : m.get? record.uuid = some held → Change m (enter m record)
  | remove {uuid : String} {held : Record} : m.get? uuid = some held → Change m (m.erase uuid)

section

variable {m m' : Registry} {session : Session}

/-- A record that is created is complete, and its UUID was free.  What is asked in between has no part
in the change. -/
theorem change_of_created {record : Record} (h : Registry.created session m record = .ok m') :
    Change m m' := by
  unfold Registry.created at h
  split at h
  · next hfilled =>
    obtain ⟨_, -, h⟩ := bind_eq_ok.mp h
    split at h
    · cases h
    · next hfree =>
      cases h
      exact .create hfilled hfree
  · cases h

/-- A record that is replaced is entered over the one before it. -/
theorem change_of_replaced {record : Record} (h : Registry.replaced session m record = .ok m') :
    Change m m' := by
  unfold Registry.replaced at h
  split at h
  · cases h
  · next held hheld =>
    obtain ⟨_, -, ⟨⟩⟩ := bind_eq_ok.mp h
    exact .replace hheld

theorem change_of_removed {uuid : String} (h : Registry.removed session m uuid = .ok m') :
    Change m m' := by
  unfold Registry.removed at h
  split at h
  · cases h
  · next held hheld =>
    obtain ⟨_, -, ⟨⟩⟩ := bind_eq_ok.mp h
    exact .remove hheld

/-- Whatever a command is answered, one of these changes has been made.  The cases are those of the
commands, and each is one of the lemmas above. -/
theorem change_of_answer {command : Command} {reply : Reply}
    (h : Registry.answer session m command = .ok (reply, m')) : Change m m' := by
  cases command with
  | init =>
    obtain ⟨made, hmade, ⟨⟩⟩ := map_eq_ok.mp h
    obtain ⟨_, -, ⟨⟩⟩ := bind_eq_ok.mp hmade
    exact .seeds
  | create record =>
    obtain ⟨made, hmade, ⟨⟩⟩ := map_eq_ok.mp h
    exact change_of_created hmade
  | createText text =>
    obtain ⟨made, hmade, ⟨⟩⟩ := map_eq_ok.mp h
    obtain ⟨record, -, hmade⟩ := bind_eq_ok.mp hmade
    exact change_of_created hmade
  | read uuid =>
    obtain ⟨record, -, ⟨⟩⟩ := map_eq_ok.mp h
    exact .nothing
  | update record =>
    obtain ⟨made, hmade, ⟨⟩⟩ := map_eq_ok.mp h
    exact change_of_replaced hmade
  | updateText text =>
    obtain ⟨made, hmade, ⟨⟩⟩ := map_eq_ok.mp h
    obtain ⟨record, -, hmade⟩ := bind_eq_ok.mp hmade
    exact change_of_replaced hmade
  | delete uuid =>
    obtain ⟨made, hmade, ⟨⟩⟩ := map_eq_ok.mp h
    exact change_of_removed hmade
  | list size bookmark =>
    obtain ⟨page, -, ⟨⟩⟩ := map_eq_ok.mp h
    exact .nothing

end

end ThreatLedger.Ledger
