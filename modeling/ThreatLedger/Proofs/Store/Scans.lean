/-
  A scan answers with the entries that it asks for, page by page.

  1. **Asking** — which keys a scan asks for, by the order of their bytes, and when a list of entries is
     the selection of a map under such a condition: all of them, each once and in order.
  2. **Pages** — a page has the first entries of the selection, and its bookmark is the key of the one
     behind them (`FirstOf`).  That key is behind another one, so it is never the empty text, not even
     where the empty text is a key.
  3. **Bounds** — an ordered map has no range between bounds that are the wrong way round.  A store in
     memory never asks for one (`page?_eq_page`): it answers with an empty page before.
  4. **Sweeps** — from the bookmark of a page on, a scan asks for what the page has left over.  By
     induction on what is left, page after page splits the selection (`scans_exact`).
-/
import ThreatLedger.Proofs.Store.Agreement
import ThreatLedger.Proofs.Text.ByteOrder

namespace ThreatLedger

open Script

/-! ## Asking -/

/-- Whether a scan asks for a key: one at its start and its bookmark or behind them, and before its end
if it has one. -/
def Scan.Asks (scan : Scan) (key : String) : Prop :=
  Bytes.ofText scan.start ≤ Bytes.ofText key ∧ Bytes.ofText scan.bookmark ≤ Bytes.ofText key ∧
    (scan.stop = "" ∨ Bytes.ofText key < Bytes.ofText scan.stop)

/-- A scan covers exactly the keys that its range asks for, at or behind its bookmark. -/
theorem Scan.covers_iff (scan : Scan) (key : String) : scan.covers key ↔ scan.Asks key := by
  unfold covers before Asks
  simp only [Bool.and_eq_true, Bool.or_eq_true, decide_eq_true_eq, Bytes.ofText_le_iff,
    Bytes.ofText_lt_iff, and_assoc]

/-- The entries of a map under the keys that are asked for, each once and in the order of the bytes. -/
structure KeyMap.Selects (m : KeyMap Bytes) (asks : String → Prop) (es : List Entry) : Prop where
  mem : ∀ key value, (key, value) ∈ es ↔ m.get? key = some value ∧ asks key
  increasing : es.Pairwise fun a b => Bytes.ofText a.1 < Bytes.ofText b.1

theorem KeyMap.selects_within (m : KeyMap Bytes) (scan : Scan) :
    m.Selects scan.Asks (m.within scan) where
  mem key value := by
    rw [get?_eq_some_iff, ← scan.covers_iff]
    exact List.mem_filter
  increasing := (m.within_sorted scan).imp fun h => (Bytes.ofText_lt_iff _ _).mpr h

theorem KeyMap.selects_all (m : KeyMap Bytes) : m.Selects (fun _ => True) m.entries where
  mem key value := by rw [and_true, get?_eq_some_iff]
  increasing := m.sorted.imp fun h => (Bytes.ofText_lt_iff _ _).mpr h

/-! ## Pages -/

/-- A page of the first entries of a selection, and where the next page starts. -/
structure ScanPage.FirstOf (size : Nat) (es : List Entry) (page : ScanPage) : Prop where
  entries : page.entries = es.take size
  bookmark : page.bookmark = (es[size]?.map (·.1)).getD ""
  ended : page.bookmark = "" ↔ es.length ≤ size

/-- A page is the first so many entries of what is within its scan, with the key of the next one as its
bookmark. -/
theorem KeyMap.page_firstOf (m : KeyMap Bytes) (scan : Scan) {size : Nat} (hsize : 0 < size) :
    (m.page scan size).FirstOf size (m.within scan) where
  entries := rfl
  bookmark := rfl
  ended := by
    have hmore : (m.page scan size).bookmark ≠ "" ↔ size < (m.within scan).length := by
      rw [← m.hasMore_page scan hsize, ScanPage.hasMore, decide_eq_true_iff]
    exact Decidable.not_iff_not.mp (hmore.trans Nat.not_le.symm)

/-- A store answers a scan with the page of what it shows, and shows the same afterwards. -/
theorem run_scan_page {σ : Type} [Store σ] [LawfulStore σ] {s : σ} {m : KeyMap Bytes}
    {saved : Option (KeyMap Bytes)} {space : Option String} (hs : Shows s ⟨m, saved, space⟩)
    (start stop : String) {size : Nat} (hsize : 0 < size) (bookmark : String) :
    let o := (Call.scan ⟨start, stop, size, bookmark⟩).run.run s
    o.result = .ok (.page (m.page ⟨start, stop, size, bookmark⟩ size)) ∧
      Shows o.store ⟨m, saved, space⟩ := by
  have hpositive : ¬(size : Int) ≤ 0 := by omega
  have hanswer : RevertibleMap.answer ⟨m, saved⟩ (.scan ⟨start, stop, size, bookmark⟩)
      = (.ok (.page (m.page ⟨start, stop, size, bookmark⟩ size)), ⟨m, saved⟩) := if_neg hpositive
  have hcall := call_answer (m := ⟨m, saved⟩) hs (.scan ⟨start, stop, size, bookmark⟩)
  rw [hanswer] at hcall
  exact hcall

/-! ## Bounds -/

/-- The range that a page in memory is taken from is always one that there is: the guard comes before
it, and it excludes ranges that end before they start. -/
theorem MemoryStore.page?_eq_page (m : MemoryStore) (scan : Scan) (limit : Nat) :
    m.page? scan limit = some (m.page scan limit) := by
  rw [m.page?_eq, m.page_eq]

/-! ## Sweeps -/

/-- Scanning a range from a bookmark on, and then from the bookmark of each page until it is empty, gives
these pages. -/
inductive Sweeps {σ : Type} [Store σ] (start stop : String) (size : Int) :
    σ → String → List ScanPage → Prop
  | last {s bookmark page} :
    ((Call.scan ⟨start, stop, size, bookmark⟩).run.run s).result = .ok (.page page) →
    page.bookmark = "" → Sweeps start stop size s bookmark [page]
  | next {s bookmark page pages} :
    ((Call.scan ⟨start, stop, size, bookmark⟩).run.run s).result = .ok (.page page) →
    page.bookmark ≠ "" →
    Sweeps start stop size ((Call.scan ⟨start, stop, size, bookmark⟩).run.run s).store page.bookmark
      pages →
    Sweeps start stop size s bookmark (page :: pages)

/-- There is one way to sweep a range: a page is what the store answers, and its bookmark tells whether
there is another.  By induction on one of the two. -/
theorem Sweeps.unique {σ : Type} [Store σ] {start stop : String} {size : Int} {s : σ}
    {bookmark : String} {pages others : List ScanPage} (h : Sweeps start stop size s bookmark pages)
    (hothers : Sweeps start stop size s bookmark others) : pages = others := by
  -- both sweeps begin with the page that the store answers, and its bookmark tells which case it is
  induction h generalizing others with
  | last hpage hend =>
    cases hothers with
    | last hpage' _ => cases hpage.symm.trans hpage'; rfl
    | next hpage' hne _ =>
      cases hpage.symm.trans hpage'
      exact absurd hend hne
  | next hpage hne _ ih =>
    cases hothers with
    | last hpage' hend =>
      cases hpage.symm.trans hpage'
      exact absurd hend hne
    | next hpage' _ hrest =>
      cases hpage.symm.trans hpage'
      rw [ih hrest]

/-- Pages that split entries, one after the other: every one but the last is full. -/
structure Splits (size : Nat) (es : List Entry) (pages : List ScanPage) : Prop where
  entries : pages.flatMap (·.entries) = es
  full : ∀ page ∈ pages.dropLast, page.entries.length = size
  small : ∀ page ∈ pages, page.entries.length ≤ size

/-- Entries that fit on one page are split into that page alone. -/
theorem splits_last {size : Nat} {es : List Entry} {page : ScanPage} (hpage : page.FirstOf size es)
    (hfew : es.length ≤ size) : Splits size es [page] := by
  have hentries : page.entries = es := hpage.entries.trans (List.take_of_length_le hfew)
  refine ⟨?_, fun _ h => absurd h List.not_mem_nil, ?_⟩
  · rw [List.flatMap_singleton, hentries]
  · intro p hp
    rw [List.mem_singleton.mp hp, hentries]
    exact hfew

/-- A full page, and the pages that split what it has left over, of which there is at least one. -/
theorem splits_next {size : Nat} {es : List Entry} {page : ScanPage} {pages : List ScanPage}
    (hpage : page.FirstOf size es) (hmany : size < es.length) (hne : pages ≠ [])
    (h : Splits size (es.drop size) pages) : Splits size es (page :: pages) := by
  have hlength : page.entries.length = size := by
    rw [hpage.entries, List.length_take_of_le (Nat.le_of_lt hmany)]
  obtain ⟨entries, full, small⟩ := h
  refine ⟨?_, ?_, List.forall_mem_cons.mpr ⟨Nat.le_of_eq hlength, small⟩⟩
  · rw [List.flatMap_cons, entries, hpage.entries, List.take_append_drop]
  · rw [List.dropLast_cons_of_ne_nil hne]
    exact List.forall_mem_cons.mpr ⟨hlength, full⟩

section

variable {σ : Type} [Store σ] [LawfulStore σ] {m : KeyMap Bytes} {saved : Option (KeyMap Bytes)}
  {space : Option String} {size : Nat}

/-- **Sweeping ends**, and splits the entries that are asked for.  The induction is on their number; each
page that is not the last one takes some of them. -/
theorem sweeps_splits (start stop : String) (hsize : 0 < size) {s : σ}
    (hs : Shows s ⟨m, saved, space⟩) (bookmark : String) :
    ∃ pages, Sweeps start stop size s bookmark pages ∧
      Splits size (m.within ⟨start, stop, size, bookmark⟩) pages := by
  induction hn : (m.within ⟨start, stop, size, bookmark⟩).length using Nat.strongRecOn
    generalizing bookmark s with
  | ind n ih =>
    let scan : Scan := ⟨start, stop, size, bookmark⟩
    obtain ⟨hpage, hstore⟩ := run_scan_page hs start stop hsize bookmark
    have hfirst := m.page_firstOf scan hsize
    rcases Nat.lt_or_ge size (m.within scan).length with hmany | hfew
    · have hnext : (m.page scan size).bookmark = (m.within scan)[size].1 := by
        rw [hfirst.bookmark, List.getElem?_eq_getElem hmany]
        rfl
      have hrest : m.within ⟨start, stop, size, (m.page scan size).bookmark⟩
          = (m.within scan).drop size := by
        rw [hnext]
        exact m.within_key scan hmany
      -- a page of a positive size takes something, so there is less behind it
      have hshort : (m.within ⟨start, stop, size, (m.page scan size).bookmark⟩).length < n := by
        rw [hrest, List.length_drop, ← hn]
        exact Nat.sub_lt (Nat.zero_lt_of_lt hmany) hsize
      obtain ⟨pages, hsweeps, hsplits⟩ := ih _ hshort hstore _ rfl
      rw [hrest] at hsplits
      have hne : pages ≠ [] := by
        rintro rfl
        cases hsweeps
      exact ⟨_, .next hpage (fun h => Nat.not_le_of_lt hmany (hfirst.ended.mp h)) hsweeps,
        splits_next hfirst hmany hne hsplits⟩
    · exact ⟨_, .last hpage (hfirst.ended.mpr hfew), splits_last hfirst hfew⟩

/-- **Scans.**  Whatever a store holds, in or outside of an invocation: a scan for a page of a positive
size answers with the first of the entries that it asks for, and with the key of the next one.  From an
empty bookmark on, the bookmarks lead to an end in one way only, and the pages split the range.  The
range that a store in memory takes its page from is always one that there is. -/
theorem scans_exact (s : σ) (m : KeyMap Bytes) (saved : Option (KeyMap Bytes))
    (space : Option String) (hs : Shows s ⟨m, saved, space⟩) (start stop : String) (size : Nat)
    (hsize : 0 < size) :
    (∀ bookmark,
        let scan : Scan := ⟨start, stop, size, bookmark⟩
        m.Selects scan.Asks (m.within scan) ∧
          ∃ page, ((Call.scan scan).run.run s).result = .ok (.page page) ∧
            page.FirstOf size (m.within scan)) ∧
      (∃ pages, Sweeps start stop size s "" pages ∧
        (∀ others, Sweeps start stop size s "" others → others = pages) ∧
        Splits size (m.within ⟨start, stop, size, ""⟩) pages) ∧
      ∀ (memory : MemoryStore) (scan : Scan) (limit : Nat),
        memory.page? scan limit = some (memory.page scan limit) := by
  refine ⟨fun bookmark => ⟨m.selects_within _, ?_⟩, ?_, MemoryStore.page?_eq_page⟩
  · exact ⟨_, (run_scan_page hs start stop hsize bookmark).1, m.page_firstOf _ hsize⟩
  · obtain ⟨pages, hsweeps, hsplits⟩ := sweeps_splits start stop hsize hs ""
    exact ⟨pages, hsweeps, fun others h => h.unique hsweeps, hsplits⟩

end

/-- Entries under four keys, the first of which is the empty text. -/
def fourEntries : KeyMap Bytes :=
  [("", [0]), ("a", [1]), ("b", [2]), ("c", [3])].foldl (fun m e => m.insert e.1 e.2) .empty

/-- The empty key is on the first page of a range, and what is behind the end on none.  From a bookmark
behind the end there is nothing left. -/
theorem range_before_c_swept :
    let s : MemoryStore := ⟨fourEntries, none⟩
    (∃ pages, Sweeps "" "c" (2 : Nat) s "" pages ∧
      pages.flatMap (·.entries) = [("", [0]), ("a", [1]), ("b", [2])]) ∧
      ∃ page, ((Call.scan ⟨"", "c", (2 : Nat), "d"⟩).run.run s).result = .ok (.page page) ∧
        page.entries = [] ∧ page.bookmark = "" := by
  obtain ⟨hpages, ⟨pages, hsweeps, -, hsplits⟩, -⟩ :=
    scans_exact (⟨fourEntries, none⟩ : MemoryStore) fourEntries none none rfl "" "c" 2 (by decide)
  obtain ⟨-, page, hpage, hfirst⟩ := hpages "d"
  have hnone : fourEntries.within ⟨"", "c", (2 : Nat), "d"⟩ = [] := by rfl
  rw [hnone] at hfirst
  exact ⟨⟨pages, hsweeps, hsplits.entries⟩, page, hpage, hfirst.entries, hfirst.bookmark⟩

end ThreatLedger
