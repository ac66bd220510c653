/-
  A connection among others on one database.

  1. **Invocations** — which rows a connection sees, and what is left of an invocation when it is
     closed, by who has an invocation open: nobody, the connection itself or another one.
  2. **Other namespaces** — `Apart` says that the rows of every other namespace are the ones given, the
     committed ones and those of an open invocation.  All calls keep it.
  3. **Steps** — so a connection that nobody is in the way of acts on its namespace as on a store of its
     own, and leaves every other namespace as it was; one that waits can only look, or be told that it
     has no invocation to end.
-/
import ThreatLedger.Proofs.Store.Blocks

open ThreatLedger.Action

namespace ThreatLedger

open Script

/-! ## Invocations -/

namespace Database

variable {d : Database} {c : Connection} {i : Invocation}

theorem rowsFor_free (h : d.invocation = none) : d.rowsFor c = d.committed.rows c.space := by
  unfold rowsFor tableFor
  rw [h]

/-- A connection that does not hold the open invocation sees what is committed, and nothing of the other
one's writes. -/
theorem rowsFor_other (h : d.invocation = some i) (hc : c.number ≠ i.holder) :
    d.rowsFor c = d.committed.rows c.space := by
  unfold rowsFor tableFor
  rw [h]
  exact congrArg (Table.rows · c.space) (if_neg (Ne.symm hc))

theorem heldBy_own (h : d.invocation = some i) (hc : c.number = i.holder) : d.heldBy c = true := by
  unfold heldBy
  rw [h]
  exact beq_iff_eq.mpr hc.symm

theorem heldBy_other (h : d.invocation = some i) (hc : c.number ≠ i.holder) :
    d.heldBy c = false := by
  unfold heldBy
  rw [h]
  exact beq_eq_false_iff_ne.mpr (Ne.symm hc)

/-- Who has no invocation open sees what is committed, also while another connection has one open. -/
theorem rowsFor_unheld (h : d.heldBy c = false) : d.rowsFor c = d.committed.rows c.space := by
  cases hi : d.invocation with
  | none => exact rowsFor_free hi
  | some i =>
    refine rowsFor_other hi fun hnumber => ?_
    rw [heldBy_own hi hnumber] at h
    cases h

/-- Whoever holds an open invocation is the connection with its number. -/
theorem holder_of_heldBy (h : d.heldBy c = true) : ∃ i, d.invocation = some i ∧ c.number = i.holder := by
  cases hi : d.invocation with
  | none =>
    unfold heldBy at h
    rw [hi] at h
    cases h
  | some i =>
    by_cases hnumber : c.number = i.holder
    · exact ⟨i, rfl, hnumber⟩
    · rw [heldBy_other hi hnumber] at h
      cases h

theorem close_free (h : d.invocation = none) : d.close c = d := by
  unfold close heldBy
  rw [h]
  rfl

/-- Closing the connection that holds the invocation drops what it has written, as a rollback would. -/
theorem close_own (h : d.invocation = some i) (hc : c.number = i.holder) :
    d.close c = { d with invocation := none } := by
  unfold close
  rw [heldBy_own h hc]
  rfl

theorem close_other (h : d.invocation = some i) (hc : c.number ≠ i.holder) : d.close c = d := by
  unfold close
  rw [heldBy_other h hc]
  rfl

end Database

namespace DatabaseStore

/-! ## Other namespaces -/

/-- The store of a connection, in which the rows of every other namespace are the ones given, for all
connections. -/
structure Apart (kept : Table) (c : Connection) (s : DatabaseStore) : Prop where
  connection : s.connection = c
  committed : ∀ other, other ≠ c.space → s.database.committed.rows other = kept.rows other
  invocation : ∀ i, s.database.invocation = some i → ∀ other, other ≠ c.space →
    i.table.rows other = kept.rows other

theorem rows_change_other (t : Table) {space other : String} (h : other ≠ space)
    (f : KeyMap Bytes → KeyMap Bytes) : (t.change space f).rows other = t.rows other := by
  rw [Table.rows_change, if_neg h]

variable {kept : Table} {c : Connection} {s : DatabaseStore}

theorem Apart.store_eq (h : Apart kept c s) : s = ⟨s.database, c⟩ := by
  rw [← h.connection]

/-- A change of the database keeps other namespaces as they are if what it makes of the database does. -/
theorem Apart.modify {f : Database → Connection → Except StoreError Database} (h : Apart kept c s)
    (hf : ∀ d, f s.database s.connection = .ok d → Apart kept c ⟨d, s.connection⟩) :
    Apart kept c ((modify f).run s).store := by
  show Apart kept c (DatabaseStore.modify f s).store
  unfold DatabaseStore.modify
  split
  · next d hd => exact hf d hd
  · exact h

/-- A write changes the rows of its own namespace only, inside an invocation as outside of one. -/
theorem Apart.write (h : Apart kept c s) (f : KeyMap Bytes → KeyMap Bytes) :
    Apart kept c ((DatabaseStore.modify fun d c => d.write c f).run s).store := by
  obtain ⟨⟨committed, invocation⟩, _⟩ := s
  obtain ⟨rfl, hcommitted, hinvocation⟩ := h
  refine Apart.modify ⟨rfl, hcommitted, hinvocation⟩ fun d hd => ?_
  -- a write goes to the committed rows, or to the table of the open invocation
  cases invocation with
  | none =>
    cases hd
    refine ⟨rfl, fun other hother => ?_, nofun⟩
    exact (rows_change_other committed hother f).trans (hcommitted other hother)
  | some i =>
    unfold Database.write at hd
    dsimp only at hd
    split at hd
    · cases hd
      refine ⟨rfl, hcommitted, ?_⟩
      rintro _ ⟨⟩ other hother
      exact (rows_change_other i.table hother f).trans (hinvocation i rfl other hother)
    · cases hd

/-- Beginning an invocation copies the table; every namespace keeps what it has. -/
theorem Apart.begin (h : Apart kept c s) :
    Apart kept c ((DatabaseStore.modify Database.begin).run s).store := by
  obtain ⟨⟨committed, invocation⟩, _⟩ := s
  obtain ⟨rfl, hcommitted, hinvocation⟩ := h
  refine Apart.modify ⟨rfl, hcommitted, hinvocation⟩ fun d hd => ?_
  cases invocation with
  | none =>
    cases hd
    refine ⟨rfl, hcommitted, ?_⟩
    rintro _ ⟨⟩ other hother
    exact hcommitted other hother
  | some i =>
    unfold Database.begin at hd
    dsimp only at hd
    split at hd <;> cases hd

/-- A commit publishes the writes of one namespace, so that the others keep what they have. -/
theorem Apart.commit (h : Apart kept c s) :
    Apart kept c ((DatabaseStore.modify Database.commit).run s).store := by
  obtain ⟨⟨committed, invocation⟩, _⟩ := s
  obtain ⟨rfl, hcommitted, hinvocation⟩ := h
  refine Apart.modify ⟨rfl, hcommitted, hinvocation⟩ fun d hd => ?_
  cases invocation with
  | none => cases hd
  | some i =>
    unfold Database.commit at hd
    dsimp only at hd
    split at hd
    · cases hd
      -- the table that is published is as the committed one everywhere else
      exact ⟨rfl, hinvocation i rfl, nofun⟩
    · cases hd

/-- A rollback drops the writes of one namespace, so that the others keep what they have. -/
theorem Apart.rollback (h : Apart kept c s) :
    Apart kept c ((DatabaseStore.modify Database.rollback).run s).store := by
  obtain ⟨⟨committed, invocation⟩, _⟩ := s
  obtain ⟨rfl, hcommitted, hinvocation⟩ := h
  refine Apart.modify ⟨rfl, hcommitted, hinvocation⟩ fun d hd => ?_
  unfold Database.rollback at hd
  split at hd
  · cases hd
    exact ⟨rfl, hcommitted, nofun⟩
  · cases hd

theorem store_scan (scan : Scan) (s : DatabaseStore) :
    ((Store.scan scan : Action DatabaseStore StoreError ScanPage).run s).store = s := by
  simp only [Store.scan]
  rw [bind_run]
  cases scan.limit with
  | error e => rfl
  | ok limit =>
    simp only [Action.run, Action.ofExcept]
    split <;> rfl

/-- A connection acts on the rows of its namespace, and on nothing else: each call is answered as on
those rows, and keeps the other namespaces as they are. -/
theorem simulates_apart (kept : Table) (c : Connection) :
    Simulates fun s t => Shown s t ∧ Apart kept c s where
  get key := tracks_and (LawfulStore.simulates.get key) fun _ h => h
  scan scan := tracks_and (LawfulStore.simulates.scan scan) fun s h => (store_scan scan s).symm ▸ h
  entry e := tracks_and (LawfulStore.simulates.entry e) fun _ h => h
  contents h := LawfulStore.simulates.contents h.1
  put key value := tracks_and (LawfulStore.simulates.put key value) fun _ h => h.write _
  delete key := tracks_and (LawfulStore.simulates.delete key) fun _ h => h.write _
  begin := tracks_and LawfulStore.simulates.begin fun _ h => h.begin
  commit := tracks_and LawfulStore.simulates.commit fun _ h => h.commit
  rollback := tracks_and LawfulStore.simulates.rollback fun _ h => h.rollback

/-! ## Steps -/

/-- A step of a connection that nobody is in the way of is answered as on the rows of its namespace, and
leaves the other namespaces alone. -/
theorem run_step_apart {kept : Table} {s : DatabaseStore} {t : ReferenceStore} (hst : Shown s t)
    (hs : Apart kept c s) (step : Script.Step) :
    (step.run.run s).result = (step.run.run t).result ∧
      Shown (step.run.run s).store (step.run.run t).store ∧ Apart kept c (step.run.run s).store := by
  have hm := (tracks_step (simulates_apart kept c) step).matches ⟨hst, hs⟩
  exact ⟨hm.result, hm.store⟩

/-- A quiet step of a connection while another one has an invocation open: it sees the committed rows,
and changes nothing. -/
theorem run_step_waiting {d : Database} {i : Invocation} (hi : d.invocation = some i)
    (hc : c.number ≠ i.holder) {step : Script.Step} (hquiet : step.isQuiet) :
    (step.run.run (⟨d, c⟩ : DatabaseStore)).result =
        (step.run.run (⟨d.committed.rows c.space, none, some c.space⟩ : ReferenceStore)).result ∧
      (step.run.run (⟨d, c⟩ : DatabaseStore)).store = ⟨d, c⟩ := by
  let R : DatabaseStore → ReferenceStore → Prop := fun s t =>
    s = ⟨d, c⟩ ∧ t = ⟨d.committed.rows c.space, none, some c.space⟩
  have hreads : ReadsTrack R Never := by
    apply readsTrack_of_rows
    · rintro _ _ ⟨rfl, rfl⟩
      exact Database.rowsFor_other hi hc
    · rintro _ _ ⟨rfl, rfl⟩
      rfl
  -- both stores refuse to end an invocation: here it is somebody else's, there is none open
  have hcommit : Tracks R Never (Store.commit : Action DatabaseStore StoreError Unit) Store.commit := by
    rintro _ _ ⟨rfl, rfl⟩
    have hrefused : d.commit c = .error .notOpen := by
      unfold Database.commit
      rw [hi]
      exact if_neg (Ne.symm hc)
    simp only [Store.commit, Action.run, modify, hrefused]
    exact .inl ⟨rfl, rfl, rfl, rfl⟩
  have hrollback :
      Tracks R Never (Store.rollback : Action DatabaseStore StoreError Unit) Store.rollback := by
    rintro _ _ ⟨rfl, rfl⟩
    have hrefused : d.rollback c = .error .notOpen := by
      unfold Database.rollback
      rw [Database.heldBy_other hi hc]
      rfl
    simp only [Store.rollback, Action.run, modify, hrefused]
    exact .inl ⟨rfl, rfl, rfl, rfl⟩
  have hm := (tracks_quiet hreads hcommit hrollback hquiet).matches (show R ⟨d, c⟩ _ from ⟨rfl, rfl⟩)
  exact ⟨hm.result, hm.store.1⟩

/-- Without an open invocation every connection shows what is committed in its namespace, whether it has
written any of that itself or not. -/
theorem shown_free {d : Database} (h : d.invocation = none) :
    Shown ⟨d, c⟩ ⟨d.committed.rows c.space, none, some c.space⟩ := by
  obtain ⟨committed, _⟩ := d
  cases h
  exact .closed committed c

/-- The connection with the invocation shows its writes, with what is committed as the copy to go back
to. -/
theorem shown_own {d : Database} {i : Invocation} (h : d.invocation = some i)
    (hc : c.number = i.holder) :
    Shown ⟨d, c⟩ ⟨i.table.rows c.space, some (d.committed.rows c.space), some c.space⟩ := by
  obtain ⟨committed, _⟩ := d
  obtain ⟨_, table⟩ := i
  cases h
  cases hc
  exact .opened committed table c

end DatabaseStore

end ThreatLedger
