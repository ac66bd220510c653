/-
  The stores in memory and in a database are lawful.

  1. **Scans** — in memory a page is cut out of what a walk along the ordered keys leaves; in a
     database it is what a selection finds, one row more than asked for.  Both are `KeyMap.page`:
     the keys are in order, so that dropping and taking along them is the same as filtering.
  2. **Memory** — a store in memory shows its entries and its saved copy, and reports no scans.
  3. **Database** — a connection shows the rows of its namespace: those of the open invocation if it
     holds one, and then the committed rows are the saved copy.  While another connection holds an
     invocation it shows nothing.
-/
import ThreatLedger.Proofs.Store.Reference
import ThreatLedger.Store.Database
import ThreatLedger.Store.Memory

open ThreatLedger.Action

namespace ThreatLedger

/-! ## Scans -/

namespace Scan

/-- A key is asked for if it is not before the origin and not behind the end. -/
theorem covers_eq (scan : Scan) (key : String) :
    scan.covers key = (decide (scan.origin ≤ key) && scan.before key) := by
  unfold covers origin
  -- the origin is the later one of the start and the bookmark
  split
  · next h =>
    by_cases hk : scan.bookmark ≤ key
    · have : scan.start ≤ key := String.le_trans (String.not_lt.mp (String.lt_asymm h)) hk
      simp [hk, this]
    · simp [hk]
  · next h =>
    by_cases hk : scan.start ≤ key
    · have : scan.bookmark ≤ key := String.le_trans (String.not_lt.mp h) hk
      simp [hk, this]
    · simp [hk]

/-- What is before the end stays before it further down. -/
theorem before_of_le {scan : Scan} {a b : String} (h : a ≤ b) (hb : scan.before b) :
    scan.before a := by
  simp only [before, Bool.or_eq_true, decide_eq_true_eq] at hb ⊢
  rcases hb with hb | hb
  · exact .inl hb
  · refine .inr (String.not_le.mp fun hs => ?_)
    exact String.not_lt.mpr (String.le_trans hs h) hb

/-- Nothing is asked for in an exhausted range. -/
theorem covers_eq_false {scan : Scan} (h : scan.exhausted) (key : String) :
    scan.covers key = false := by
  have ho : ¬scan.before scan.origin := by simpa [exhausted] using h
  rw [covers_eq]
  cases hb : scan.before key with
  | false => exact Bool.and_false _
  | true =>
    have hk : ¬scan.origin ≤ key := fun hk => ho (before_of_le hk hb)
    rw [decide_eq_false hk, Bool.false_and]

/-- A range that is not exhausted starts before it ends. -/
theorem origin_lt {scan : Scan} (h : ¬scan.exhausted) :
    ¬(scan.stop ≠ "" ∧ scan.stop < scan.origin) := by
  rintro ⟨hstop, hlt⟩
  have hbefore : scan.before scan.origin := by simpa [exhausted] using h
  simp only [before, hstop, decide_false, Bool.false_or, decide_eq_true_eq] at hbefore
  exact String.lt_asymm hlt hbefore

/-- A scan whose bookmark is past its end has no entries, so that a store need not look. -/
theorem within_eq_nil {scan : Scan} (h : scan.exhausted) (m : KeyMap Bytes) : m.within scan = [] :=
  List.filter_eq_nil_iff.mpr fun e _ => by
    rw [covers_eq_false h]
    exact Bool.false_ne_true

end Scan

namespace KeyMap

/-- Dropping the first keys that come before an origin is leaving out all that do, because the keys are
in order.  By induction on the entries. -/
theorem dropWhile_lt_eq_filter {α : Type} {es : List (String × α)}
    (hs : es.Pairwise fun a b => a.1 < b.1) (origin : String) :
    es.dropWhile (fun e => e.1 < origin) = es.filter fun e => origin ≤ e.1 := by
  induction es with
  | nil => rfl
  | cons a as ih =>
    obtain ⟨ha, has⟩ := List.pairwise_cons.mp hs
    by_cases h : a.1 < origin
    · have hn : ¬origin ≤ a.1 := String.not_le.mpr h
      simp only [List.dropWhile_cons, List.filter_cons, h, hn, decide_true, decide_false, if_true]
      exact ih has
    · -- the first key that is kept is the least one, so all are kept from there
      have hall : ∀ e ∈ a :: as, decide (origin ≤ e.1) = true := by
        intro e he
        have hle : origin ≤ a.1 := String.not_lt.mp h
        rcases List.mem_cons.mp he with he | he
        · exact decide_eq_true (he ▸ hle)
        · exact decide_eq_true (String.le_trans hle (String.not_lt.mp (String.lt_asymm (ha e he))))
      rw [List.filter_eq_self.mpr hall, List.dropWhile_cons_of_neg (by simpa using h)]

/-- Taking keys up to the end of a range is leaving out all that are not before it, because the keys are
in order.  By induction on the entries. -/
theorem takeWhile_before_eq_filter {α : Type} {es : List (String × α)}
    (hs : es.Pairwise fun a b => a.1 < b.1) (scan : Scan) :
    es.takeWhile (fun e => scan.before e.1) = es.filter fun e => scan.before e.1 := by
  induction es with
  | nil => rfl
  | cons a as ih =>
    obtain ⟨ha, has⟩ := List.pairwise_cons.mp hs
    by_cases h : scan.before a.1
    · simp only [List.takeWhile_cons, List.filter_cons, h, if_true, ih has]
    · -- the first key that is left out is the least one, so all are left out from there
      have hall : ∀ e ∈ a :: as, ¬scan.before e.1 := by
        intro e he hb
        rcases List.mem_cons.mp he with he | he
        · exact h (he ▸ hb)
        · exact h (Scan.before_of_le (String.not_lt.mp (String.lt_asymm (ha e he))) hb)
      rw [List.takeWhile_cons, if_neg h, List.filter_eq_nil_iff.mpr hall]

end KeyMap

namespace MemoryStore

/-- A range that is not exhausted can be asked for, and has the entries that the condition on keys
selects. -/
theorem between?_eq (m : MemoryStore) {scan : Scan} (h : ¬scan.exhausted) :
    m.entries.between? scan.origin scan.stop = some (m.entries.within scan) := by
  rw [KeyMap.between?, if_neg (Scan.origin_lt h)]
  refine congrArg some ?_
  show (m.entries.entries.dropWhile _).takeWhile (fun e => scan.before e.1) = _
  unfold KeyMap.within
  rw [KeyMap.dropWhile_lt_eq_filter m.entries.sorted,
    KeyMap.takeWhile_before_eq_filter (m.entries.sorted.filter _), List.filter_filter]
  refine List.filter_congr fun e _ => ?_
  rw [Scan.covers_eq, Bool.and_comm]

/-- There always is a page, and it is the one that the condition on keys gives: an exhausted range has
an empty one, and any other range can be asked for. -/
theorem page?_eq (m : MemoryStore) (scan : Scan) (limit : Nat) :
    m.page? scan limit = some (m.entries.page scan limit) := by
  unfold page? KeyMap.page
  by_cases h : scan.exhausted
  · rw [if_pos h, Scan.within_eq_nil h, List.take_nil]
    rfl
  · rw [if_neg h, m.between?_eq h]
    rfl

theorem page_eq (m : MemoryStore) (scan : Scan) (limit : Nat) :
    m.page scan limit = m.entries.page scan limit := by
  rw [page, page?_eq]
  rfl

end MemoryStore

namespace Database

/-- What a database selects is the front of what is within the scan. -/
theorem select_eq_take (d : Database) (c : Connection) (scan : Scan) (count : Nat) :
    d.select c scan count = ((d.rowsFor c).within scan).take count := by
  unfold select KeyMap.within
  congr 1
  exact List.filter_congr fun e _ => (Scan.covers_eq scan e.1).symm

/-- The row that is selected beyond the page gives the bookmark: one more row is asked for than the page
can have, and its key is where the next one starts. -/
theorem page_eq (d : Database) (c : Connection) (scan : Scan) (limit : Nat) :
    d.page c scan limit = (d.rowsFor c).page scan limit := by
  unfold page KeyMap.page
  simp only [select_eq_take]
  generalize (d.rowsFor c).within scan = rows
  by_cases h : limit < rows.length
  · -- the last row that is selected is the first one behind the page
    have hlen : (rows.take (limit + 1)).length = limit + 1 := List.length_take_of_le h
    have hlast : (rows.take (limit + 1)).getLast? = rows[limit]? := by
      rw [List.getLast?_eq_getElem?, hlen, Nat.add_sub_cancel, List.getElem?_take_of_lt (by omega)]
    have hinit : (rows.take (limit + 1)).dropLast = rows.take limit := by
      rw [List.dropLast_eq_take, hlen, Nat.add_sub_cancel, List.take_take,
        Nat.min_eq_left (by omega)]
    rw [if_pos (by omega), hlast, hinit]
  · -- all rows are selected, and all of them are on the page
    have hlen : ¬limit < (rows.take (limit + 1)).length := by
      rw [List.length_take]
      omega
    have hnone : rows[limit]? = none := List.getElem?_eq_none (by omega)
    rw [if_neg hlen, List.take_of_length_le (by omega), List.take_of_length_le (by omega), hnone]
    rfl

end Database

/-! ## Memory -/

namespace MemoryStore

/-- A store in memory shows its entries and its saved copy. -/
instance : LawfulStore MemoryStore where
  Shows m s := s = ⟨m.entries, m.saved, none⟩
  simulates := by
    refine ⟨⟨⟨?get, ?scan, ?entry, ?contents⟩, ?put, ?delete⟩, ?begin, ?commit, ?rollback⟩
    case get | entry | put | delete =>
      intros
      rintro m s rfl
      exact .inl ⟨rfl, rfl, rfl⟩
    case contents =>
      rintro m s rfl
      rfl
    case scan =>
      rintro scan m s rfl
      refine .inl ?_
      show Outcome.Matches _ (⟨scan.limit.map (m.page scan), m, []⟩ : Outcome _ _ _) _
      unfold Action.run
      simp only [Store.scan]
      cases scan.limit with
      | error e => exact ⟨rfl, rfl, rfl⟩
      | ok limit => exact ⟨congrArg Except.ok (page_eq m scan limit), rfl, rfl⟩
    all_goals
      rintro ⟨entries, saved⟩ s rfl
      cases saved <;> exact .inl ⟨rfl, rfl, rfl⟩

theorem holds_iff (m : MemoryStore) (entries : KeyMap Bytes) :
    Holds m entries ↔ m = ⟨entries, none⟩ := by
  constructor
  · rintro ⟨space, h⟩
    obtain ⟨rfl, h, -⟩ := ReferenceStore.mk.inj h
    obtain ⟨es, saved⟩ := m
    exact congrArg _ h.symm
  · rintro rfl
    exact ⟨none, rfl⟩

end MemoryStore

/-! ## Database -/

namespace DatabaseStore

/-- What a connection shows: the committed rows of its namespace, or those of the invocation that it
holds, with the committed ones to go back to. -/
inductive Shown : DatabaseStore → ReferenceStore → Prop
  | closed (committed : Table) (c : Connection) :
    Shown ⟨⟨committed, none⟩, c⟩ ⟨committed.rows c.space, none, some c.space⟩
  | opened (committed table : Table) (c : Connection) :
    Shown ⟨⟨committed, some ⟨c.number, table⟩⟩, c⟩
      ⟨table.rows c.space, some (committed.rows c.space), some c.space⟩

/-- What a connection sees is what the reference store holds: its own writes inside its invocation, and
what is committed otherwise. -/
theorem Shown.rowsFor {s : DatabaseStore} {t : ReferenceStore} (h : Shown s t) :
    s.database.rowsFor s.connection = t.entries := by
  cases h with
  | closed committed c => rfl
  | opened committed table c =>
    show Table.rows (if c.number = c.number then table else committed) c.space = table.rows c.space
    rw [if_pos rfl]

theorem Shown.space {s : DatabaseStore} {t : ReferenceStore} (h : Shown s t) :
    t.space = some s.connection.space := by
  cases h <;> rfl

theorem rows_change_self (t : Table) (space : String) (f : KeyMap Bytes → KeyMap Bytes) :
    (t.change space f).rows space = f (t.rows space) := by
  rw [Table.rows_change, if_pos rfl]

/-- A write changes the rows that are shown, and only them. -/
theorem tracks_write (f : KeyMap Bytes → KeyMap Bytes) :
    Tracks Shown Never (modify fun d c => d.write c f)
      fun t => (⟨.ok (), { t with entries := f t.entries }, []⟩ : Outcome _ StoreError _) := by
  intro s t h
  refine .inl ?_
  cases h with
  | closed committed c =>
    -- outside an invocation a write is committed at once
    refine ⟨rfl, rfl, ?_⟩
    show Shown _ ⟨f (committed.rows c.space), none, some c.space⟩
    rw [← rows_change_self committed c.space f]
    exact .closed _ c
  | opened committed table c =>
    -- in an invocation only its own table changes, so there is the same to go back to
    have hwrite : Database.write ⟨committed, some ⟨c.number, table⟩⟩ c f
        = .ok ⟨committed, some ⟨c.number, table.change c.space f⟩⟩ := if_pos rfl
    simp only [Action.run, modify, hwrite, ← rows_change_self table c.space f]
    exact ⟨rfl, rfl, .opened _ _ c⟩

/-- A connection is read as a reference store is that has the rows which the connection sees, be they
committed or those of its own open invocation. -/
theorem readsTrack_of_rows {R : DatabaseStore → ReferenceStore → Prop}
    (hrows : ∀ {s t}, R s t → s.database.rowsFor s.connection = t.entries)
    (hspace : ∀ {s t}, R s t → t.space = some s.connection.space) : ReadsTrack R Never where
  get key s t hst := .inl ⟨congrArg (fun m => Except.ok (KeyMap.get? m key)) (hrows hst), rfl, hst⟩
  entry e s t hst := .inl ⟨rfl, rfl, hst⟩
  contents hst := congrArg KeyMap.entries (hrows hst)
  scan scan := by
    intro s t hst
    refine .inl ?_
    simp only [Store.scan]
    rw [bind_run]
    cases scan.limit with
    | error e => exact ⟨rfl, rfl, hst⟩
    | ok limit =>
      -- the database does not look into an exhausted range, and there is nothing in it
      by_cases hx : scan.exhausted
      · have hpage : t.entries.page scan limit = ⟨[], ""⟩ := by
          unfold KeyMap.page
          rw [Scan.within_eq_nil hx, List.take_nil]
          rfl
        simp only [Action.run, Action.ofExcept, if_pos hx, hpage, ReferenceStore.scanReport,
          hspace hst]
        exact ⟨rfl, rfl, hst⟩
      · simp only [Action.run, Action.ofExcept, if_neg hx, scanPage, Database.page_eq, hrows hst,
          ReferenceStore.scanReport, hspace hst]
        exact ⟨rfl, rfl, hst⟩

/-- A connection that holds the open invocation, if there is one, shows the rows of its
namespace. -/
instance : LawfulStore DatabaseStore where
  Shows := Shown
  simulates := by
    refine ⟨⟨readsTrack_of_rows Shown.rowsFor Shown.space, ?put, ?delete⟩, ?begin, ?commit,
      ?rollback⟩
    case put => exact fun key value => tracks_write _
    case delete => exact fun key => tracks_write _
    case begin =>
      rintro _ _ (⟨committed, c⟩ | ⟨committed, table, c⟩)
      · exact .inl ⟨rfl, rfl, .opened committed committed c⟩
      · have hheld : Database.heldBy ⟨committed, some ⟨c.number, table⟩⟩ c := beq_self_eq_true _
        have hbegin : Database.begin ⟨committed, some ⟨c.number, table⟩⟩ c = .error .alreadyOpen :=
          if_pos hheld
        simp only [Store.begin, Action.run, modify, hbegin]
        exact .inl ⟨rfl, rfl, .opened committed table c⟩
    case commit =>
      rintro _ _ (⟨committed, c⟩ | ⟨committed, table, c⟩)
      · exact .inl ⟨rfl, rfl, .closed committed c⟩
      · have hcommit : Database.commit ⟨committed, some ⟨c.number, table⟩⟩ c = .ok ⟨table, none⟩ :=
          if_pos rfl
        simp only [Store.commit, Action.run, modify, hcommit]
        exact .inl ⟨rfl, rfl, .closed table c⟩
    case rollback =>
      rintro _ _ (⟨committed, c⟩ | ⟨committed, table, c⟩)
      · exact .inl ⟨rfl, rfl, .closed committed c⟩
      · have hheld : Database.heldBy ⟨committed, some ⟨c.number, table⟩⟩ c := beq_self_eq_true _
        have hback : Database.rollback ⟨committed, some ⟨c.number, table⟩⟩ c
            = .ok ⟨committed, none⟩ := if_pos hheld
        simp only [Store.rollback, Action.run, modify, hback]
        exact .inl ⟨rfl, rfl, .closed committed c⟩

/-- A connection holds the committed rows of its namespace when no invocation is open. -/
theorem holds_iff (s : DatabaseStore) (entries : KeyMap Bytes) :
    Holds s entries ↔
      s.database.invocation = none ∧ entries = s.database.committed.rows s.connection.space := by
  constructor
  · rintro ⟨space, h⟩
    cases h with
    | closed committed c => exact ⟨rfl, rfl⟩
  · obtain ⟨⟨committed, invocation⟩, c⟩ := s
    rintro ⟨rfl, rfl⟩
    exact ⟨_, .closed committed c⟩

end DatabaseStore
end ThreatLedger
