/-
  Commands that address different records commute.

  1. **Addresses** — the UUIDs that a command addresses, whatever it is answered.
  2. **Locality** — on maps that have the same under the keys of these UUIDs a command is answered
     alike: with the same error, or with the same reply and the same edit of both maps, which is made
     under these keys only (`answer_alike`).
  3. **Commutation** — so neither of two commands that address different UUIDs can tell whether the
     other one came first, and both orders lead to the same entries (`disjoint_commands_commute`).

  What is stored does not have to be a record, and a command that fails is no special case: its edit
  is none.
-/
import Mathlib.Data.List.Basic
import ThreatLedger.Proofs.Ledger.Mediation
import ThreatLedger.Proofs.Ledger.Refinement

namespace ThreatLedger.Ledger

/-! ## Addresses -/

/-- The UUIDs that a command addresses.  A text that holds no record addresses none; a listing goes
along the keys, and addresses no UUIDs of its own. -/
def Command.addressed : Command → Option (List String)
  | .init => some (Record.seeds.map (·.uuid))
  | .create record | .update record => some [record.uuid]
  | .createText text | .updateText text => some ((Record.parse text).toOption.toList.map (·.uuid))
  | .read uuid | .delete uuid => some [uuid]
  | .list _ _ => none

/-! ## Locality -/

/-- The answers to a command on the entries `m` and on the entries `n`: the same error, or the same
reply and the same edit, under the keys of some UUIDs. -/
inductive EditsAlike (uuids : List String) (m n : KeyMap Bytes) :
    Except LedgerError (Reply × KeyMap Bytes) → Except LedgerError (Reply × KeyMap Bytes) → Prop
  | fails (e : LedgerError) : EditsAlike uuids m n (.error e) (.error e)
  | files (reply : Reply) (records : List Record) : (∀ record ∈ records, record.uuid ∈ uuids) →
    EditsAlike uuids m n (.ok (reply, records.foldl filed m)) (.ok (reply, records.foldl filed n))
  | erases (reply : Reply) {uuid : String} : uuid ∈ uuids →
    EditsAlike uuids m n (.ok (reply, m.erase (Record.keyOf uuid)))
      (.ok (reply, n.erase (Record.keyOf uuid)))

section

variable {m n : KeyMap Bytes} {uuids : List String} {key : String}

/-- What is filed is found alike wherever the maps were alike before. -/
theorem get?_foldl_filed_congr (records : List Record) (h : m.get? key = n.get? key) :
    (records.foldl filed m).get? key = (records.foldl filed n).get? key := by
  induction records generalizing m n with
  | nil => exact h
  | cons record records ih =>
    apply ih
    rw [filed, filed, KeyMap.get?_insert, KeyMap.get?_insert, h]

theorem get?_foldl_filed_other {records : List Record}
    (h : ∀ record ∈ records, key ≠ record.key) :
    (records.foldl filed m).get? key = m.get? key := by
  induction records generalizing m with
  | nil => rfl
  | cons record records ih =>
    obtain ⟨hne, hrest⟩ := List.forall_mem_cons.mp h
    rw [List.foldl_cons, ih hrest, filed, KeyMap.get?_insert, if_neg hne]

variable {r q : Except LedgerError (Reply × KeyMap Bytes)}

theorem EditsAlike.reply_eq (h : EditsAlike uuids m n r q) : r.map (·.1) = q.map (·.1) := by
  cases h <;> rfl

/-- Under a key that belongs to none of the UUIDs nothing has changed, whether the command succeeded or
failed. -/
theorem EditsAlike.unchanged (h : EditsAlike uuids m n r q)
    (hkey : ∀ uuid ∈ uuids, key ≠ Record.keyOf uuid) :
    (entriesAfter m r).get? key = m.get? key := by
  cases h with
  | fails e => rfl
  | files reply records hrecords =>
    exact get?_foldl_filed_other fun record hrecord => hkey record.uuid (hrecords record hrecord)
  | erases reply huuid =>
    show (m.erase _).get? key = _
    rw [KeyMap.get?_erase, if_neg (hkey _ huuid)]

/-- Under a key where the maps were alike, they still are.  The key may be one of those that were
edited, for what was written there is the same. -/
theorem EditsAlike.congr (h : EditsAlike uuids m n r q) (hkey : m.get? key = n.get? key) :
    (entriesAfter m r).get? key = (entriesAfter n q).get? key := by
  cases h with
  | fails e => exact hkey
  | files reply records _ => exact get?_foldl_filed_congr _ hkey
  | erases reply _ =>
    show (m.erase _).get? key = (n.erase _).get? key
    rw [KeyMap.get?_erase, KeyMap.get?_erase, hkey]

end

section

variable {m n : KeyMap Bytes} (session : Session)

/-- Seeds are written over whatever is there, so they are written alike on any two maps. -/
theorem seeded_alike :
    EditsAlike (Record.seeds.map (·.uuid)) m n ((seeded session m).map (.done, ·))
      ((seeded session n).map (.done, ·)) := by
  unfold seeded
  cases admitted session .init with
  | error e => exact .fails e
  | ok role => exact .files .done Record.seeds fun record hrecord => List.mem_map_of_mem hrecord

/-- Whether a record can be created depends on its own key alone: validation and the rules do not ask
the store, and a duplicate is found there. -/
theorem created_alike {record : Record} (h : m.get? record.key = n.get? record.key) :
    EditsAlike [record.uuid] m n ((created session m record).map (.done, ·))
      ((created session n record).map (.done, ·)) := by
  -- the checks are the same on both maps, so each of them fails on both or on neither
  unfold created
  rw [h]
  cases validate record with
  | error e => exact .fails e
  | ok _ =>
    cases admitted session .create with
    | error e => exact .fails e
    | ok role =>
      cases (n.get? record.key).isSome with
      | true => exact .fails _
      | false => exact .files .done [record] (by simp)

theorem lookUp_congr {uuid : String} (h : m.get? (Record.keyOf uuid) = n.get? (Record.keyOf uuid)) :
    lookUp m uuid = lookUp n uuid := by
  unfold lookUp
  rw [h]

/-- Whether a record can be read depends on its own key alone, and a read files nothing. -/
theorem found_alike {uuid : String}
    (h : m.get? (Record.keyOf uuid) = n.get? (Record.keyOf uuid)) :
    EditsAlike [uuid] m n ((found session m uuid).map (.record ·, m))
      ((found session n uuid).map (.record ·, n)) := by
  have hfound : found session m uuid = found session n uuid := by
    unfold found
    rw [lookUp_congr h]
  rw [hfound]
  cases found session n uuid with
  | error e => exact .fails e
  | ok record => exact .files (.record record) [] (by simp)

/-- Whether a record can be replaced depends on its own key alone: it is judged by what is stored
there. -/
theorem replaced_alike {record : Record} (h : m.get? record.key = n.get? record.key) :
    EditsAlike [record.uuid] m n ((replaced session m record).map (.done, ·))
      ((replaced session n record).map (.done, ·)) := by
  unfold replaced
  rw [lookUp_congr h]
  cases lookUp n record.uuid with
  | error e => exact .fails e
  | ok stored =>
    simp only [bind, Except.bind]
    cases admitted session (.update stored) with
    | error e => exact .fails e
    | ok role => exact .files .done [record] (by simp)

/-- Whether a record can be removed depends on its own key alone: whether it is stored, and then on who
asks. -/
theorem removed_alike {uuid : String}
    (h : m.get? (Record.keyOf uuid) = n.get? (Record.keyOf uuid)) :
    EditsAlike [uuid] m n ((removed session m uuid).map (.done, ·))
      ((removed session n uuid).map (.done, ·)) := by
  unfold removed
  rw [h]
  cases (n.get? (Record.keyOf uuid)).isSome with
  | false => exact .fails _
  | true =>
    cases admitted session (.delete uuid) with
    | error e => exact .fails e
    | ok role => exact .erases .done (List.mem_singleton_self uuid)

/-- A text that holds a record is answered as that record is, and any other one with an error. -/
theorem submitted_alike {text : String}
    {f : KeyMap Bytes → Record → Except LedgerError (KeyMap Bytes)}
    (hf : ∀ record, Record.parse text = .ok record →
      EditsAlike [record.uuid] m n ((f m record).map (Reply.done, ·)) ((f n record).map (.done, ·))) :
    EditsAlike ((Record.parse text).toOption.toList.map (·.uuid)) m n
      ((parseRecord text >>= f m).map (.done, ·)) ((parseRecord text >>= f n).map (.done, ·)) := by
  unfold parseRecord
  cases hparse : Record.parse text with
  -- no UUID is addressed, and the error says nothing of what is stored
  | error cause => exact .fails _
  | ok record => exact hf record hparse

/-- **Locality.**  A command only depends on what is stored for the UUIDs that it addresses, and only
edits that.  This is why commands for different UUIDs commute. -/
theorem answer_alike {command : Command} {uuids : List String}
    (haddressed : command.addressed = some uuids)
    (h : ∀ uuid ∈ uuids, m.get? (Record.keyOf uuid) = n.get? (Record.keyOf uuid)) :
    EditsAlike uuids m n (command.answer session m) (command.answer session n) := by
  cases command with
  | init =>
    cases haddressed
    exact seeded_alike session
  | create record =>
    cases haddressed
    exact created_alike session (h record.uuid (List.mem_singleton_self _))
  | createText text =>
    cases haddressed
    refine submitted_alike fun record hparse => ?_
    rw [hparse] at h
    exact created_alike session (h record.uuid (List.mem_singleton_self _))
  | read uuid =>
    cases haddressed
    exact found_alike session (h uuid (List.mem_singleton_self _))
  | update record =>
    cases haddressed
    exact replaced_alike session (h record.uuid (List.mem_singleton_self _))
  | updateText text =>
    cases haddressed
    refine submitted_alike fun record hparse => ?_
    rw [hparse] at h
    exact replaced_alike session (h record.uuid (List.mem_singleton_self _))
  | delete uuid =>
    cases haddressed
    exact removed_alike session (h uuid (List.mem_singleton_self _))
  -- a listing addresses every UUID, so it is excluded here
  | list size bookmark => cases haddressed

end

/-! ## Commutation -/

section

variable {m : KeyMap Bytes} {a b : Session × Command} {us vs : List String}

/-- The entries after a command. -/
def after (m : KeyMap Bytes) (step : Session × Command) : KeyMap Bytes :=
  entriesAfter m (step.2.answer step.1 m)

/-- Nothing changes for the UUIDs that a command does not address. -/
theorem get?_after (hb : b.2.addressed = some vs) {key : String}
    (hkey : ∀ uuid ∈ vs, key ≠ Record.keyOf uuid) : (after m b).get? key = m.get? key :=
  (answer_alike b.1 (n := m) hb fun _ _ => rfl).unchanged hkey

/-- A command is answered alike before and after one that addresses other UUIDs. -/
theorem answer_after (ha : a.2.addressed = some us) (hb : b.2.addressed = some vs)
    (h : us.Disjoint vs) :
    EditsAlike us m (after m b) (a.2.answer a.1 m) (a.2.answer a.1 (after m b)) := by
  apply answer_alike a.1 ha
  intro uuid huuid
  refine (get?_after hb fun other hother heq => ?_).symm
  exact h huuid (Record.keyOf_inj.mp heq ▸ hother)

/-- Under a key of the second command both orders have left what it leaves on its own, and under any
other key what the first one does. -/
theorem after_comm (ha : a.2.addressed = some us) (hb : b.2.addressed = some vs)
    (h : us.Disjoint vs) : after (after m a) b = after (after m b) a := by
  have halike := answer_after (m := m) ha hb h
  have hblike := answer_after (m := m) hb ha (List.disjoint_symm h)
  apply KeyMap.ext_get?
  intro key
  by_cases hkey : ∃ uuid ∈ vs, key = Record.keyOf uuid
  · -- a key of the second command: the first one leaves it alone, in either order
    obtain ⟨uuid, huuid, rfl⟩ := hkey
    have hother : ∀ other ∈ us, Record.keyOf uuid ≠ Record.keyOf other := fun other hother heq =>
      h hother (Record.keyOf_inj.mp heq ▸ huuid)
    calc (after (after m a) b).get? (Record.keyOf uuid)
        = (after m b).get? (Record.keyOf uuid) := (hblike.congr (get?_after ha hother).symm).symm
      _ = (after (after m b) a).get? (Record.keyOf uuid) := (get?_after ha hother).symm
  · -- any other key: it is the second command that leaves it alone
    have hother : ∀ uuid ∈ vs, key ≠ Record.keyOf uuid := fun uuid huuid heq =>
      hkey ⟨uuid, huuid, heq⟩
    calc (after (after m a) b).get? key
        = (after m a).get? key := get?_after hb hother
      _ = (after (after m b) a).get? key := halike.congr (get?_after hb hother).symm

end

section

variable {σ : Type} [Store σ] [LawfulStore σ]

/-- Two commands, one after the other: the second one is answered from what the first one has left, and
both answers can be read off the entries. -/
theorem run_pair {s : σ} {m : KeyMap Bytes} (hs : Holds s m) (a b : Session × Command) :
    (runAll s [a, b]).1 =
        [(a.2.answer a.1 m).map (·.1), (b.2.answer b.1 (after m a)).map (·.1)] ∧
      Holds (runAll s [a, b]).2 (after (after m a) b) := by
  obtain ⟨hfirst, hbetween⟩ := run_answer hs a.1 a.2
  obtain ⟨hsecond, hlast⟩ := run_answer hbetween b.1 b.2
  exact ⟨congrArg₂ (fun x y => [x, y]) hfirst hsecond, hlast⟩

/-- **Commutation.**  Whatever a store holds, two commands that address different UUIDs, each with its
own caller and mode, can be carried out in either order: each is answered the same, and in the end the
store holds the same. -/
theorem disjoint_commands_commute (s : σ) (m : KeyMap Bytes) (hs : Holds s m)
    (a b : Session × Command) (us vs : List String) (ha : a.2.addressed = some us)
    (hb : b.2.addressed = some vs) (h : us.Disjoint vs) :
    ∃ first second m', (runAll s [a, b]).1 = [first, second] ∧ Holds (runAll s [a, b]).2 m' ∧
      (runAll s [b, a]).1 = [second, first] ∧ Holds (runAll s [b, a]).2 m' := by
  obtain ⟨hab, hstore⟩ := run_pair hs a b
  obtain ⟨hba, hstore'⟩ := run_pair hs b a
  have hfirst := (answer_after (m := m) ha hb h).reply_eq
  have hsecond := (answer_after (m := m) hb ha (List.disjoint_symm h)).reply_eq
  rw [← hfirst, hsecond] at hba
  rw [← after_comm ha hb h] at hstore'
  exact ⟨_, _, _, hab, hstore, hba, hstore'⟩

end

/-- The head of operations removes bytes that hold no record, while nobody can say who gives the ledger
its seeds.  Neither the bytes nor the foreign key are in the way of the seeds. -/
theorem removal_and_seeds_commute :
    let removal : Session × Command := (⟨.ofRole "HeadOfOperations", .rbac⟩, .delete "1")
    let seeding : Session × Command := (⟨.failing "down", .openAccess⟩, .init)
    let s : MemoryStore := ⟨mixedEntries, none⟩
    (runAll s [removal, seeding]).1 = [.ok .done, .ok .done] ∧
      ∃ m', Holds (runAll s [removal, seeding]).2 m' ∧ Holds (runAll s [seeding, removal]).2 m' := by
  intro removal seeding s
  have hs : Holds s mixedEntries := (MemoryStore.holds_iff _ _).mpr rfl
  have hdisjoint : ["1"].Disjoint (Record.seeds.map (·.uuid)) :=
    List.singleton_disjoint.mpr (by decide)
  obtain ⟨_, _, m', -, hab, -, hba⟩ :=
    disjoint_commands_commute s mixedEntries hs removal seeding _ _ rfl rfl hdisjoint
  exact ⟨by rfl, m', hab, hba⟩

end ThreatLedger.Ledger
