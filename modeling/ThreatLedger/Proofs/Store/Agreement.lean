/-
  All stores answer calls alike, in whatever order the calls come.

  1. **Model** — a `RevertibleMap` is an ordered map and, while an invocation is open, the copy to go
     back to.  It answers every call of a script, misuse included.
  2. **Calls** — a call of a lawful store is answered as by the map that it shows (`call_answer`).
  3. **Sequences** — by induction, so is every sequence of calls; a store in memory and a database
     therefore never differ (`backends_agree`).
-/
import ThreatLedger.Proofs.Store.Backends
import ThreatLedger.Store.Script

open ThreatLedger.Action

namespace ThreatLedger

open Script

/-! ## Model -/

/-- An ordered map, and the copy of it to go back to, if one is saved. -/
structure RevertibleMap where
  entries : KeyMap Bytes
  saved : Option (KeyMap Bytes)

namespace RevertibleMap

/-- The map without entries, and no copy. -/
def empty : RevertibleMap := ⟨.empty, none⟩

/-- What a call answers, and the map afterwards.  Reads and scans see what was written last, be it in an
open invocation or outside of one. -/
def answer (m : RevertibleMap) : Call → Except StoreError Reply × RevertibleMap
  | .get key => (.ok (.value (m.entries.get? key)), m)
  | .put key value => (.ok .done, { m with entries := m.entries.insert key value })
  | .delete key => (.ok .done, { m with entries := m.entries.erase key })
  | .scan range =>
    if range.size ≤ 0 then (.error (.invalidPageSize range.size), m)
    else (.ok (.page (m.entries.page range range.size.toNat)), m)
  | .begin =>
    match m.saved with
    | some _ => (.error .alreadyOpen, m)
    | none => (.ok .done, { m with saved := some m.entries })
  | .commit =>
    match m.saved with
    | none => (.error .notOpen, m)
    | some _ => (.ok .done, { m with saved := none })
  | .rollback =>
    match m.saved with
    | none => (.error .notOpen, m)
    | some entries => (.ok .done, ⟨entries, none⟩)

/-- The answers to calls one after the other, and the map afterwards. -/
def answers (m : RevertibleMap) : List Call → List (Except StoreError Reply) × RevertibleMap
  | [] => ([], m)
  | call :: calls =>
    let (result, m') := m.answer call
    let (results, last) := m'.answers calls
    (result :: results, last)

/-- The reference store that a map is, with scans reported under a namespace. -/
def shown (m : RevertibleMap) (space : Option String) : ReferenceStore := ⟨m.entries, m.saved, space⟩

end RevertibleMap

/-- A page says that more follow exactly if the scan asks for more entries than it holds: the next key
is behind another one, so it is not the empty text. -/
theorem KeyMap.hasMore_page (m : KeyMap Bytes) (scan : Scan) {limit : Nat} (h : 0 < limit) :
    (m.page scan limit).hasMore ↔ limit < (m.within scan).length := by
  have hsorted := List.pairwise_iff_getElem.mp (m.sorted.filter fun e => scan.covers e.1)
  show decide (((m.within scan)[limit]?.map (·.1)).getD "" ≠ "") = true ↔ _
  rw [decide_eq_true_iff]
  by_cases hl : limit < (m.within scan).length
  · have hne : (m.within scan)[limit].1 ≠ "" := fun he =>
      String.not_le.mpr (he ▸ hsorted 0 limit (Nat.zero_lt_of_lt hl) hl h) (empty_le _)
    rw [List.getElem?_eq_getElem hl]
    exact iff_of_true hne hl
  · rw [List.getElem?_eq_none (by omega)]
    exact iff_of_false (fun hne => hne rfl) hl

/-! ## Calls -/

section

variable {σ τ : Type} [Store σ] [Store τ] {R : σ → τ → Prop} {P : σ → Prop}

/-- By induction on the entries: taking them out of a page is the same on two stores if each call is. -/
theorem tracks_takeEntries (h : ReadsTrack R P) (es : List Entry) :
    Tracks R P (takeEntries es) (takeEntries es) := by
  induction es with
  | nil => exact tracks_pure _
  | cons e es ih => exact tracks_bind (h.entry e) fun _ => tracks_bind ih fun _ => tracks_pure _

theorem tracks_scanned (h : ReadsTrack R P) (range : Scan) :
    Tracks R P (Call.scan range).run (Call.scan range).run := by
  refine tracks_bind (h.scan range) fun page => ?_
  exact tracks_bind (tracks_takeEntries h page.entries) fun _ => tracks_pure _

/-- A call is answered as by the store that is simulated, whichever of the seven it is. -/
theorem tracks_call (h : Simulates R) (call : Call) : Tracks R Never call.run call.run := by
  cases call with
  | get key => exact tracks_map _ (h.get key)
  | put key value => exact tracks_map _ (h.put key value)
  | delete key => exact tracks_map _ (h.delete key)
  | scan range => exact tracks_scanned h.toReadsTrack range
  | begin => exact tracks_map _ h.begin
  | commit => exact tracks_map _ h.commit
  | rollback => exact tracks_map _ h.rollback

end

theorem run_takeEntries (es : List Entry) (s : ReferenceStore) :
    (takeEntries es).run s = ⟨.ok es, s, []⟩ := by
  induction es with
  | nil => rfl
  | cons e es ih =>
    have hentry : (Store.entry e : Action ReferenceStore StoreError Entry).run s = ⟨.ok e, s, []⟩ := rfl
    simp only [takeEntries, run_bind, hentry, ih, pure_run, Outcome.after, List.append_nil]

theorem run_scan (scan : Scan) (s : ReferenceStore) :
    ∃ events, (Store.scan scan : Action ReferenceStore StoreError ScanPage).run s =
      ⟨scan.limit.map (s.entries.page scan), s, events⟩ := by
  cases hlimit : scan.limit with
  | error e => exact ⟨[], by simp only [Store.scan, Action.run, hlimit, Except.map]⟩
  | ok limit => exact ⟨_, ReferenceStore.run_scan_ok hlimit s⟩

/-- The reference store answers a call as the map that it is.  The cases are those of the calls; an
invocation is one that is open, or none. -/
theorem run_call (m : RevertibleMap) (space : Option String) (call : Call) :
    ∃ events, call.run.run (m.shown space) =
      ⟨(m.answer call).1, (m.answer call).2.shown space, events⟩ := by
  cases call with
  | get key | put key value | delete key => exact ⟨[], rfl⟩
  | scan range =>
    obtain ⟨events, hscan⟩ := run_scan range (m.shown space)
    refine ⟨events, ?_⟩
    simp only [Call.run, run_bind, hscan, Scan.limit, RevertibleMap.answer]
    -- a size that is refused, or a page whose entries are then taken out one by one
    by_cases hs : range.size ≤ 0
    · simp only [if_pos hs, Except.map]
    · simp only [if_neg hs, Except.map, run_takeEntries, pure_run, Outcome.after, List.append_nil]
      rfl
  | begin | commit | rollback =>
    obtain ⟨entries, saved⟩ := m
    cases saved <;> exact ⟨[], rfl⟩

/-- **Calls.**  A store that shows a map answers a call as the map does, and then shows the map
afterwards. -/
theorem call_answer {σ : Type} [Store σ] [LawfulStore σ] {s : σ} {m : RevertibleMap}
    {space : Option String} (hs : Shows s (m.shown space)) (call : Call) :
    (call.run.run s).result = (m.answer call).1 ∧
      Shows (call.run.run s).store ((m.answer call).2.shown space) := by
  have hm := (tracks_call LawfulStore.simulates call).matches hs
  obtain ⟨events, hrun⟩ := run_call m space call
  rw [hrun] at hm
  exact ⟨hm.result, hm.store⟩

/-! ## Sequences -/

/-- The answers of a store to calls one after the other, and the store afterwards. -/
def Script.answers {σ : Type} [Store σ] (s : σ) : List Call → List (Except StoreError Reply) × σ
  | [] => ([], s)
  | call :: calls =>
    let o := call.run.run s
    let (results, last) := Script.answers o.store calls
    (o.result :: results, last)

/-- **Runs.**  By induction on the calls: a lawful store answers as the revertible map, and shows it
afterwards. -/
theorem calls_answers {σ : Type} [Store σ] [LawfulStore σ] {s : σ} {m : RevertibleMap}
    {space : Option String} (hs : Shows s (m.shown space)) (calls : List Call) :
    (Script.answers s calls).1 = (m.answers calls).1 ∧
      Shows (Script.answers s calls).2 ((m.answers calls).2.shown space) := by
  induction calls generalizing s m with
  | nil => exact ⟨rfl, hs⟩
  | cons call calls ih =>
    obtain ⟨hresult, hshows⟩ := call_answer hs call
    obtain ⟨hresults, hlast⟩ := ih hshows
    exact ⟨congr (congrArg List.cons hresult) hresults, hlast⟩

/-- **Backends.**  A new store in memory and a new database, whatever its namespace, give the answers of
the map to every sequence of calls, and have its entries in the end. -/
theorem backends_agree (space : String) (calls : List Call) :
    let memory := Script.answers MemoryStore.empty calls
    let database := Script.answers (DatabaseStore.empty space) calls
    let model := RevertibleMap.empty.answers calls
    (memory.1 = model.1 ∧ Store.contents memory.2 = model.2.entries.entries) ∧
      database.1 = model.1 ∧ Store.contents database.2 = model.2.entries.entries := by
  have hmemory : Shows MemoryStore.empty (RevertibleMap.empty.shown none) := rfl
  have hdatabase : Shows (DatabaseStore.empty space) (RevertibleMap.empty.shown (some space)) :=
    DatabaseStore.Shown.closed .empty ⟨0, space⟩
  obtain ⟨hresults, hlast⟩ := calls_answers hmemory calls
  obtain ⟨hresults', hlast'⟩ := calls_answers hdatabase calls
  exact ⟨⟨hresults, LawfulStore.simulates.contents hlast⟩, hresults',
    LawfulStore.simulates.contents hlast'⟩

/-- Misuse is answered, and what is put outside an invocation is there at once: a second `begin` fails
and a rollback goes back to the first one, after which there is nothing to commit. -/
example :
    (RevertibleMap.empty.answers
      [.put "a" [1], .begin, .put "b" [2], .begin, .scan (.all 1 ""), .rollback, .commit,
        .scan (.all 0 ""), .get "b"]).1 =
      [.ok .done, .ok .done, .ok .done, .error .alreadyOpen, .ok (.page ⟨[("a", [1])], "b"⟩),
        .ok .done, .error .notOpen, .error (.invalidPageSize 0), .ok (.value none)] := by
  rfl

end ThreatLedger
