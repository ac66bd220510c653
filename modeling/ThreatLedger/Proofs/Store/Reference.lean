/-
  The reference store, and the stores that are lawful because they behave as it does.

  1. **Ranges** — `KeyMap.within` names the entries that a scan asks for, by a condition on each key
     alone, and `KeyMap.page` cuts a page from them.  A scan of all keys asks for the entries that
     are `onward` from its bookmark; the bookmark of a page is the key of the first entry behind it
     (`keyBehind`), and onward from there are the entries that the page left.
  2. **Reference** — a `ReferenceStore` is an ordered map, and while an invocation is open the copy
     that was saved when it began.  It also knows under which namespace its scans are reported, if
     they are.
  3. **Laws** — a store is lawful if a relation `Shows` to reference stores is kept by all of its
     calls, with the same answers and events (`LawfulStore`).  What is proved of an action on the
     reference store then holds of every lawful store.
  4. **Holding** — `Holds s m` says that `s` has the entries `m` and no open invocation.
-/
import ThreatLedger.Proofs.Store.Tracking
import ThreatLedger.Store.KeyMap

namespace ThreatLedger

/-! ## Ranges -/

/-- Whether a scan asks for a key. -/
def Scan.covers (scan : Scan) (key : String) : Bool :=
  scan.start ≤ key && scan.bookmark ≤ key && scan.before key

/-- No text comes before the empty one. -/
theorem empty_le (s : String) : "" ≤ s := List.not_lt_nil s.toList

namespace KeyMap

/-- The entries that a scan asks for, in the order of their keys. -/
def within (m : KeyMap Bytes) (scan : Scan) : List Entry :=
  m.entries.filter fun e => scan.covers e.1

/-- The first entries that a scan asks for, and the key of the one after them. -/
def page (m : KeyMap Bytes) (scan : Scan) (limit : Nat) : ScanPage :=
  ⟨(m.within scan).take limit, ((m.within scan)[limit]?.map (·.1)).getD ""⟩

/-- The entries at a bookmark and behind it, in the order of their keys. -/
def onward (m : KeyMap Bytes) (bookmark : String) : List Entry :=
  m.entries.filter fun e => bookmark ≤ e.1

theorem onward_empty (m : KeyMap Bytes) : m.onward "" = m.entries :=
  List.filter_eq_self.mpr fun e _ => decide_eq_true (empty_le e.1)

/-- A scan of everything from a bookmark on has what is onward of that. -/
theorem within_all (m : KeyMap Bytes) (size : Int) (bookmark : String) :
    m.within (.all size bookmark) = m.onward bookmark := by
  refine List.filter_congr fun e _ => ?_
  show (decide ("" ≤ e.1) && decide (bookmark ≤ e.1) && (Scan.all size bookmark).before e.1) = _
  rw [decide_eq_true (empty_le e.1), Bool.true_and]
  exact Bool.and_true _

theorem onward_sorted (m : KeyMap Bytes) (bookmark : String) :
    (m.onward bookmark).Pairwise fun a b => a.1 < b.1 := m.sorted.filter _

theorem within_sorted (m : KeyMap Bytes) (scan : Scan) :
    (m.within scan).Pairwise fun a b => a.1 < b.1 := m.sorted.filter _

/-- A scan that goes on from the key of an entry asks for the entries from its place on: the keys are in
order, so none further down comes before it. -/
theorem within_key (m : KeyMap Bytes) (scan : Scan) {k : Nat} (hk : k < (m.within scan).length) :
    m.within { scan with bookmark := (m.within scan)[k].1 } = (m.within scan).drop k := by
  have hsorted := List.pairwise_iff_getElem.mp (m.within_sorted scan)
  generalize hes : m.within scan = es at hk hsorted ⊢
  have hback : ∀ e ∈ es.take k, ¬decide (es[k].1 ≤ e.1) = true := by
    intro e he
    obtain ⟨i, hi, rfl⟩ := List.mem_take_iff_getElem.mp he
    simpa using hsorted i k (by omega) hk (by omega)
  have hon : ∀ e ∈ es.drop k, decide (es[k].1 ≤ e.1) = true := by
    intro e he
    obtain ⟨i, hi, rfl⟩ := List.mem_drop_iff_getElem.mp he
    rcases Nat.eq_zero_or_pos i with rfl | hpos
    · exact decide_eq_true (String.le_refl _)
    · have hlt := hsorted k (k + i) hk (by omega) (by omega)
      exact decide_eq_true (String.not_lt.mp (String.lt_asymm hlt))
  -- the entry is not before the bookmark, so the condition on its key is the stronger one
  have hmem : es[k] ∈ m.within scan := hes ▸ List.getElem_mem hk
  have hcovers : scan.covers es[k].1 = true := (List.mem_filter.mp hmem).2
  have hle : scan.bookmark ≤ es[k].1 := by
    unfold Scan.covers at hcovers
    simp only [Bool.and_eq_true, decide_eq_true_eq] at hcovers
    exact hcovers.1.2
  calc m.within { scan with bookmark := es[k].1 }
      = (m.within scan).filter fun e => es[k].1 ≤ e.1 := by
        rw [within, within, List.filter_filter]
        refine List.filter_congr fun e _ => ?_
        rw [Bool.eq_iff_iff]
        simp only [Scan.covers, Scan.before, Bool.and_eq_true, decide_eq_true_eq]
        exact ⟨fun ⟨⟨hs, hb⟩, hstop⟩ => ⟨hb, ⟨hs, String.le_trans hle hb⟩, hstop⟩,
          fun ⟨hb, ⟨hs, _⟩, hstop⟩ => ⟨⟨hs, hb⟩, hstop⟩⟩
    _ = (es.take k ++ es.drop k).filter fun e => es[k].1 ≤ e.1 := by
        rw [hes, List.take_append_drop]
    _ = es.drop k := by
        rw [List.filter_append, List.filter_eq_nil_iff.mpr hback, List.filter_eq_self.mpr hon,
          List.nil_append]

/-- Onward from the key of an entry are the entries from its place on. -/
theorem onward_key (m : KeyMap Bytes) (bookmark : String) {k : Nat}
    (hk : k < (m.onward bookmark).length) :
    m.onward (m.onward bookmark)[k].1 = (m.onward bookmark).drop k := by
  simp only [← within_all m 1 bookmark] at hk ⊢
  rw [← m.within_key (.all 1 bookmark) hk]
  exact (within_all m 1 _).symm

/-- The key behind a full page is stored, and comes after the bookmark that the page started
from. -/
theorem next_key (m : KeyMap Bytes) (bookmark : String) {size : Nat} (hsize : 0 < size)
    (hmany : size < (m.onward bookmark).length) :
    (m.onward bookmark)[size].1 ∈ m.keys ∧ bookmark < (m.onward bookmark)[size].1 := by
  have hmem : (m.onward bookmark)[size] ∈ m.onward bookmark := List.getElem_mem hmany
  have hfirst : (m.onward bookmark)[0] ∈ m.onward bookmark := List.getElem_mem (by omega)
  have hle : bookmark ≤ (m.onward bookmark)[0].1 := of_decide_eq_true (List.mem_filter.mp hfirst).2
  have hlt : (m.onward bookmark)[0].1 < (m.onward bookmark)[size].1 :=
    List.pairwise_iff_getElem.mp (m.onward_sorted bookmark) 0 size (by omega) hmany hsize
  refine ⟨List.mem_map_of_mem (List.mem_filter.mp hmem).1, String.not_le.mp fun h => ?_⟩
  exact String.not_le.mpr hlt (String.le_trans h hle)

/-- The key behind the first entries onward, or the empty text if they are all. -/
def keyBehind (m : KeyMap Bytes) (bookmark : String) (size : Nat) : String :=
  ((m.onward bookmark)[size]?.map (·.1)).getD ""

/-- The key behind a page is that of the first entry that did not fit. -/
theorem keyBehind_eq (m : KeyMap Bytes) (bookmark : String) {size : Nat}
    (hmany : size < (m.onward bookmark).length) :
    m.keyBehind bookmark size = (m.onward bookmark)[size].1 := by
  rw [keyBehind, List.getElem?_eq_getElem hmany]
  rfl

/-- Either the first entries are all, or the key behind them comes after the bookmark.  This is what
makes a walk along bookmarks come to an end. -/
theorem keyBehind_onward (m : KeyMap Bytes) (bookmark : String) {size : Nat} (hsize : 0 < size) :
    (m.onward bookmark).length ≤ size ∧ m.keyBehind bookmark size = "" ∨
      size < (m.onward bookmark).length ∧ bookmark < m.keyBehind bookmark size := by
  rcases Nat.lt_or_ge size (m.onward bookmark).length with hmany | hfew
  · exact .inr ⟨hmany, m.keyBehind_eq bookmark hmany ▸ (m.next_key bookmark hsize hmany).2⟩
  · refine .inl ⟨hfew, ?_⟩
    rw [keyBehind, List.getElem?_eq_none hfew]
    rfl

/-- The first entries onward are those before the key that is behind them, so that a page can be told by
its bounds instead of by its size. -/
theorem mem_take_onward (m : KeyMap Bytes) (bookmark : String) {size : Nat} (hsize : 0 < size)
    {e : Entry} :
    e ∈ (m.onward bookmark).take size ↔ e ∈ m.onward bookmark ∧
      (m.keyBehind bookmark size = "" ∨ e.1 < m.keyBehind bookmark size) := by
  rcases m.keyBehind_onward bookmark hsize with ⟨hfew, hnone⟩ | ⟨hmany, hlt⟩
  · -- all entries fit, so none is behind them
    rw [List.take_of_length_le hfew]
    exact ⟨fun he => ⟨he, .inl hnone⟩, And.left⟩
  · have hne : m.keyBehind bookmark size ≠ "" := fun h => List.not_lt_nil _ (h ▸ hlt)
    have hsorted := List.pairwise_iff_getElem.mp (m.onward_sorted bookmark)
    rw [or_iff_right hne, m.keyBehind_eq bookmark hmany]
    constructor
    · intro he
      obtain ⟨i, hi, rfl⟩ := List.mem_take_iff_getElem.mp he
      exact ⟨List.getElem_mem _, hsorted i size (by omega) hmany (by omega)⟩
    · rintro ⟨he, hbefore⟩
      obtain ⟨i, hi, rfl⟩ := List.getElem_of_mem he
      refine List.mem_take_iff_getElem.mpr ⟨i, ?_, rfl⟩
      -- keys increase with their places, so a key before that at the size is in front of it
      rcases Nat.lt_trichotomy i size with hfront | rfl | hbehind
      · omega
      · exact absurd hbefore (String.lt_irrefl _)
      · exact absurd hbefore (String.lt_asymm (hsorted size i hmany hi hbehind))

/-- A page of all keys: the next entries, and the key of the one behind them. -/
theorem page_all (m : KeyMap Bytes) (size : Int) (bookmark : String) (limit : Nat) :
    m.page (.all size bookmark) limit =
      ⟨(m.onward bookmark).take limit, ((m.onward bookmark)[limit]?.map (·.1)).getD ""⟩ := by
  rw [page, within_all]

end KeyMap

/-! ## Reference -/

/-- An ordered map with the copy that an open invocation saved, and the namespace of its reports. -/
structure ReferenceStore where
  entries : KeyMap Bytes
  saved : Option (KeyMap Bytes)
  space : Option String

namespace ReferenceStore

/-- What is reported of a scan that found a number of entries. -/
def scanReport (space : Option String) (scan : Scan) (found : Nat) : List Event :=
  match space with
  | none => []
  | some space => if scan.exhausted then [] else [.scanned space scan.origin found]

instance : Store ReferenceStore where
  get key := fun s => ⟨.ok (s.entries.get? key), s, []⟩
  put key value := fun s => ⟨.ok (), { s with entries := s.entries.insert key value }, []⟩
  delete key := fun s => ⟨.ok (), { s with entries := s.entries.erase key }, []⟩
  scan scan := fun s =>
    match scan.limit with
    | .error e => ⟨.error e, s, []⟩
    | .ok limit =>
      ⟨.ok (s.entries.page scan limit), s,
        scanReport s.space scan (s.entries.page scan limit).entries.length⟩
  entry e := .succeed e
  begin := fun s =>
    match s.saved with
    | some _ => ⟨.error .alreadyOpen, s, []⟩
    | none => ⟨.ok (), { s with saved := some s.entries }, []⟩
  commit := fun s =>
    match s.saved with
    | none => ⟨.error .notOpen, s, []⟩
    | some _ => ⟨.ok (), { s with saved := none }, []⟩
  rollback := fun s =>
    match s.saved with
    | none => ⟨.error .notOpen, s, []⟩
    | some entries => ⟨.ok (), { s with entries := entries, saved := none }, []⟩
  contents s := s.entries.entries

/-- A scan of a good size answers with its page, reports how much that has, and changes nothing.  The
size is all that it could have been refused for. -/
theorem run_scan_ok {scan : Scan} {limit : Nat} (h : scan.limit = .ok limit) (s : ReferenceStore) :
    (Store.scan scan : Action ReferenceStore StoreError ScanPage).run s =
      ⟨.ok (s.entries.page scan limit), s,
        scanReport s.space scan (s.entries.page scan limit).entries.length⟩ := by
  simp only [Store.scan, Action.run, h]

end ReferenceStore

/-! ## Laws -/

/-- A store whose calls are those of the reference store that it shows. -/
class LawfulStore (σ : Type) [Store σ] where
  Shows : σ → ReferenceStore → Prop
  simulates : Simulates Shows

export LawfulStore (Shows)

/-! ## Holding -/

variable {σ : Type} [Store σ] [LawfulStore σ]

/-- A store that has the entries `m` and no open invocation. -/
def Holds (s : σ) (m : KeyMap Bytes) : Prop := ∃ space, Shows s ⟨m, none, space⟩

theorem Holds.contents {s : σ} {m : KeyMap Bytes} (h : Holds s m) :
    Store.contents s = m.entries := by
  obtain ⟨space, hs⟩ := h
  exact LawfulStore.simulates.contents hs

end ThreatLedger
