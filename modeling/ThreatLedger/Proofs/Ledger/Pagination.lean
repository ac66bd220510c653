/-
  Listing page after page finds every record that the caller may see.

  1. **Pages** — one call of `list` answers with the visible records of the next entries.
  2. **Following** — `Follows` lists from the bookmark of each page until one is empty; `Paged` says
     what the pages are then.  Each page shortens what is onward, which carries the induction.
  3. **Completeness** — following ends, and its pages, `listAll`, the listing of the command line
     and a single call for a large enough page all give the same records (`pages_complete`).
-/
import ThreatLedger.CommandLine.Run
import ThreatLedger.Proofs.Ledger.Admission
import ThreatLedger.Proofs.Record.RoundTrip
import ThreatLedger.Proofs.Store.Backends

namespace ThreatLedger

namespace Ledger

/-! ## Pages -/

/-- The records of entries that hold one. -/
def decoded (es : List Entry) : List Record := es.filterMap fun e => (Record.decode e.2).toOption

/-- The records of entries that a role may see. -/
def visible (mode : Mode) (role : Role) (es : List Entry) : List Record :=
  (decoded es).filter (mode.canRead role)

/-- Every one of the entries holds a record. -/
def AllDecode (es : List Entry) : Prop := ∀ e ∈ es, ∃ record, Record.decode e.2 = .ok record

/-- What is visible of one page and the next is visible of both together. -/
theorem visible_append (mode : Mode) (role : Role) (es fs : List Entry) :
    visible mode role (es ++ fs) = visible mode role es ++ visible mode role fs := by
  rw [visible, decoded, List.filterMap_append, List.filter_append]
  rfl

theorem visible_length_le (mode : Mode) (role : Role) (es : List Entry) :
    (visible mode role es).length ≤ es.length :=
  Nat.le_trans (List.length_filter_le ..) (List.length_filterMap_le ..)

/-- Entries that can all be read are decoded to their records, by induction on them.  This is where the
hypothesis about the whole ledger is put to use. -/
theorem decodeAll_eq {es : List Entry} (h : AllDecode es) : decodeAll es = .ok (decoded es) := by
  induction es with
  | nil => rfl
  | cons e es ih =>
    obtain ⟨⟨record, he⟩, hes⟩ := List.forall_mem_cons.mp h
    rw [decodeAll_cons, ih hes, decodeStored, he]
    simp only [decoded, List.filterMap_cons, he]
    rfl

section

variable {σ : Type} [Store σ] [LawfulStore σ] {s : σ} {m : KeyMap Bytes} {session : Session}
  {role : Role}

/-- **Pages.**  Where everything can be read and listing is allowed, a page has what is visible of its
entries, and the bookmark is the key behind them. -/
theorem listed_eq (hdecode : AllDecode m.entries) (hrole : callerRole session = .ok role)
    (hlist : session.mode.check role .list = .allow) {size : Nat} (hsize : 0 < size)
    (bookmark : String) :
    listed session m size bookmark =
      .ok ⟨visible session.mode role ((m.onward bookmark).take size),
        ((m.onward bookmark)[size]?.map (·.1)).getD ""⟩ := by
  have htake : AllDecode ((m.onward bookmark).take size) := fun e he =>
    hdecode e (List.mem_filter.mp (List.mem_of_mem_take he)).1
  unfold listed
  rw [admitted_of_allow hrole hlist]
  simp only [bind, Except.bind]
  rw [if_neg (by omega), KeyMap.page_all, Int.toNat_natCast, decodeAll_eq htake]
  rfl

/-- **One page.**  A caller who may list gets the visible records of the next entries, and the key
of the entry behind them. -/
theorem run_list (hs : Holds s m) (hdecode : AllDecode m.entries)
    (hrole : callerRole session = .ok role) (hlist : session.mode.check role .list = .allow)
    {size : Nat} (hsize : 0 < size) (bookmark : String) :
    ((list session size bookmark).run s).result =
        .ok ⟨visible session.mode role ((m.onward bookmark).take size),
          ((m.onward bookmark)[size]?.map (·.1)).getD ""⟩ ∧
      Holds ((list session size bookmark).run s).store m := by
  rw [← listed_eq hdecode hrole hlist hsize bookmark]
  exact (list_finds session size bookmark).holds (tracks_list LawfulStore.simulates session _ _) hs

end

/-! ## Following -/

/-- Listing from a bookmark, and then from the bookmark of each page until it is empty, gives these
pages. -/
inductive Follows {σ : Type} [Store σ] (session : Session) (size : Int) :
    σ → String → List Page → Prop
  | last {s bookmark page} :
    ((list session size bookmark).run s).result = .ok page → page.bookmark = "" →
    Follows session size s bookmark [page]
  | next {s bookmark page pages} :
    ((list session size bookmark).run s).result = .ok page → page.bookmark ≠ "" →
    Follows session size ((list session size bookmark).run s).store page.bookmark pages →
    Follows session size s bookmark (page :: pages)

/-- There is one way to follow the bookmarks: a page is what `list` answers, and whether it is the last
one can be read off its bookmark.  By induction on one of the two. -/
theorem Follows.unique {σ : Type} [Store σ] {session : Session} {size : Int} {s : σ}
    {bookmark : String} {pages others : List Page} (h : Follows session size s bookmark pages)
    (hothers : Follows session size s bookmark others) : pages = others := by
  -- both ways begin with the page that the store answers, and its bookmark tells which case it is
  induction h generalizing others with
  | last hpage hend =>
    cases hothers with
    | last hpage' _ => cases hpage.symm.trans hpage'; rfl
    | next hpage' hne _ =>
      cases hpage.symm.trans hpage'
      exact absurd hend hne
  | next hpage hne _ ih =>
    cases hothers with
    | last hpage' hend =>
      cases hpage.symm.trans hpage'
      exact absurd hend hne
    | next hpage' _ hrest =>
      cases hpage.symm.trans hpage'
      rw [ih hrest]

/-- What pages of a size hold that were followed from a bookmark through the entries `m`. -/
structure Paged (mode : Mode) (role : Role) (m : KeyMap Bytes) (size : Nat) (bookmark : String)
    (pages : List Page) : Prop where
  /-- Together they are the records from the bookmark on that the role may see. -/
  records : pages.flatMap (·.records) = visible mode role (m.onward bookmark)
  /-- There are as many as the entries fill, and at least one. -/
  count : pages.length = max 1 (((m.onward bookmark).length + size - 1) / size)
  small : ∀ page ∈ pages, page.records.length ≤ size
  last : pages.getLast?.map (·.bookmark) = some ""
  keys : ∀ page ∈ pages.dropLast, page.bookmark ∈ m.keys
  increasing : (bookmark :: pages.dropLast.map (·.bookmark)).Pairwise (· < ·)

section

variable {m : KeyMap Bytes} {mode : Mode} {role : Role} {size : Nat} {bookmark : String}

/-- A page that takes all entries onward is the only one, and its bookmark is empty, as no key is
left. -/
theorem paged_last (hsize : 0 < size) (hfew : (m.onward bookmark).length ≤ size) :
    Paged mode role m size bookmark [⟨visible mode role (m.onward bookmark), ""⟩] where
  records := List.append_nil _
  count := by
    -- the number of pages is rounded up, and here it is at most one
    have hdiv : ((m.onward bookmark).length + size - 1) / size < 2 :=
      (Nat.div_lt_iff_lt_mul hsize).mpr (by omega)
    rw [List.length_singleton]
    omega
  small page hpage := by
    rw [List.mem_singleton.mp hpage]
    exact Nat.le_trans (visible_length_le ..) hfew
  last := rfl
  keys _ hpage := absurd hpage List.not_mem_nil
  increasing := List.pairwise_singleton _ _

/-- A full page, followed by the pages from the next key on.  What is visible of both together is what
is visible onward, and the next bookmark is behind this one. -/
theorem paged_next (hsize : 0 < size) (hmany : size < (m.onward bookmark).length)
    {pages : List Page} (h : Paged mode role m size (m.onward bookmark)[size].1 pages) :
    Paged mode role m size bookmark
      (⟨visible mode role ((m.onward bookmark).take size), (m.onward bookmark)[size].1⟩
        :: pages) := by
  obtain ⟨hstored, hlt⟩ := m.next_key bookmark hsize hmany
  obtain ⟨records, count, small, last, keys, increasing⟩ := h
  rw [m.onward_key bookmark hmany] at records count
  obtain ⟨next, rest, rfl⟩ : ∃ next rest, pages = next :: rest :=
    List.exists_cons_of_ne_nil (by rintro rfl; cases last)
  refine ⟨?records, ?count, ?small, ?last, ?keys, ?increasing⟩
  case records =>
    rw [List.flatMap_cons, records, ← visible_append, List.take_append_drop]
  case count =>
    -- one page more than the entries behind this one fill, of which there is at least one
    have hdiv : ((m.onward bookmark).length + size - 1) / size
        = ((m.onward bookmark).length - size + size - 1) / size + 1 := by
      rw [← Nat.add_div_right _ hsize]
      congr 1
      omega
    have hpos : 1 ≤ ((m.onward bookmark).length - size + size - 1) / size :=
      (Nat.one_le_div_iff hsize).mpr (by omega)
    rw [List.length_drop] at count
    rw [List.length_cons, count, hdiv]
    omega
  case small =>
    refine List.forall_mem_cons.mpr ⟨?_, small⟩
    exact Nat.le_trans (visible_length_le ..) (List.length_take_le ..)
  case last => rw [List.getLast?_cons_cons, last]
  case keys => exact List.forall_mem_cons.mpr ⟨hstored, keys⟩
  case increasing =>
    refine List.pairwise_cons.mpr ⟨List.forall_mem_cons.mpr ⟨hlt, fun key hkey => ?_⟩, increasing⟩
    exact String.lt_trans hlt ((List.pairwise_cons.mp increasing).1 key hkey)

end

section

variable {σ : Type} [Store σ] [LawfulStore σ] {m : KeyMap Bytes} {session : Session} {role : Role}
  {size : Nat}

/-- **Following ends**, with the pages that it should have.  The induction is on the number of
entries onward from the bookmark; each page that is not the last one takes some of them. -/
theorem follows_paged (hdecode : AllDecode m.entries) (hrole : callerRole session = .ok role)
    (hlist : session.mode.check role .list = .allow) (hsize : 0 < size) {s : σ} (hs : Holds s m)
    (bookmark : String) :
    ∃ pages, Follows session size s bookmark pages ∧
      Paged session.mode role m size bookmark pages := by
  induction hn : (m.onward bookmark).length using Nat.strongRecOn generalizing bookmark s with
  | ind n ih =>
    obtain ⟨hpage, hstore⟩ := run_list hs hdecode hrole hlist hsize bookmark
    by_cases hfew : (m.onward bookmark).length ≤ size
    · rw [List.take_of_length_le hfew, List.getElem?_eq_none hfew] at hpage
      exact ⟨_, .last hpage rfl, paged_last hsize hfew⟩
    · have hmany : size < (m.onward bookmark).length := Nat.lt_of_not_le hfew
      -- the empty key comes first, so it is never the one behind a page
      have hne : (m.onward bookmark)[size].1 ≠ "" := fun h =>
        List.not_lt_nil _ (h ▸ (m.next_key bookmark hsize hmany).2)
      rw [List.getElem?_eq_getElem hmany] at hpage
      have hshort : (m.onward (m.onward bookmark)[size].1).length < n := by
        rw [m.onward_key bookmark hmany, List.length_drop]
        omega
      obtain ⟨pages, hfollows, hpaged⟩ := ih _ hshort hstore _ rfl
      exact ⟨_, .next hpage hne hfollows, paged_next hsize hmany hpaged⟩

end

/-! ## Completeness -/

section

variable {σ : Type} [Store σ] {session : Session} {size : Int}

/-- A walk goes along the pages that follow, if it may take as many.  By induction on the pages, of
which each takes one from the number that is left. -/
theorem Follows.walkFrom {s : σ} {bookmark : String} {pages : List Page}
    (h : Follows session size s bookmark pages) {more : Nat} (hmore : pages.length ≤ more + 1) :
    ((walkFrom session size more bookmark).run s).result = .ok ⟨pages, none⟩ := by
  induction h generalizing more with
  | last hpage hend =>
    unfold Ledger.walkFrom
    rw [Action.run_bind, Action.run_attempt, hpage]
    simp only [if_pos hend]
    rfl
  | @next s bookmark page pages hpage hne hrest ih =>
    -- there is a page behind this one, so one more may be taken
    have hpos : 0 < pages.length := by cases hrest <;> exact Nat.zero_lt_succ _
    rw [List.length_cons] at hmore
    obtain ⟨more, rfl⟩ : ∃ fewer, more = fewer + 1 := Nat.exists_eq_succ_of_ne_zero (by omega)
    unfold Ledger.walkFrom
    rw [Action.run_bind, Action.run_attempt, hpage]
    simp only [if_neg hne]
    show ((Ledger.walkFrom session size more page.bookmark >>= _).run _).result = _
    rw [Action.bind_run, ih (by omega)]
    rfl

end

section

variable {σ : Type} [Store σ] [LawfulStore σ] {m : KeyMap Bytes} {session : Session} {role : Role}
  {size : Nat}

/-- Listing everything gives the records that following the bookmarks gives, since a walk may take as
many pages as there are keys, and one. -/
theorem run_listAll (hdecode : AllDecode m.entries) (hrole : callerRole session = .ok role)
    (hlist : session.mode.check role .list = .allow) (hsize : 0 < size) {s : σ} (hs : Holds s m)
    (bookmark : String) :
    ((listAll session size bookmark).run s).result =
      .ok (visible session.mode role (m.onward bookmark)) := by
  obtain ⟨pages, hfollows, hpaged⟩ := follows_paged hdecode hrole hlist hsize hs bookmark
  -- every page but the first starts with an entry that no other page has
  have hfew : pages.length ≤ (Store.contents s).length + 1 := by
    have hle : (m.onward bookmark).length ≤ m.entries.length := List.length_filter_le ..
    have hmul := Nat.le_mul_of_pos_right (m.onward bookmark).length hsize
    have hdiv :
        ((m.onward bookmark).length + size - 1) / size < (m.onward bookmark).length + 1 := by
      rw [Nat.div_lt_iff_lt_mul hsize, Nat.add_mul, Nat.one_mul]
      omega
    rw [hpaged.count, hs.contents]
    omega
  unfold listAll
  rw [Action.bind_run]
  have hwalk : ((walk session size bookmark).run s).result = .ok ⟨pages, none⟩ :=
    hfollows.walkFrom hfew
  rw [hwalk, ← hpaged.records]
  rfl

/-- **Completeness.**  Where every entry holds a record, a caller who may list finds all that it may
see: following the bookmarks ends, in as many calls as the entries fill pages, and its pages, the
listing of everything in the ledger and on the command line, and a single call for a page that is
large enough all give the same records. -/
theorem pages_complete (s : σ) (m : KeyMap Bytes) (hs : Holds s m) (hdecode : AllDecode m.entries)
    (session : Session) (role : Role) (hrole : callerRole session = .ok role)
    (hlist : session.mode.check role .list = .allow) (size : Nat) (hsize : 0 < size)
    (bookmark : String) :
    let records := visible session.mode role (m.onward bookmark)
    (∃ pages, Follows session size s bookmark pages ∧
        Paged session.mode role m size bookmark pages) ∧
      ((listAll session size bookmark).run s).result = .ok records ∧
      ((CommandLine.listing session ⟨size, bookmark, true⟩).run s).result =
        .ok (CommandLine.valueLines (.array (records.map Record.schema.value))) ∧
      ∀ whole : Nat, 0 < whole → (m.onward bookmark).length ≤ whole →
        ((list session whole bookmark).run s).result = .ok ⟨records, ""⟩ := by
  have hall := run_listAll hdecode hrole hlist hsize hs bookmark
  have hfollow := follows_paged hdecode hrole hlist hsize hs bookmark
  refine ⟨hfollow, hall, ?_, fun whole hwhole hfew => ?_⟩
  · show ((listAll session size bookmark >>= fun records =>
      pure (CommandLine.valueLines (.array (records.map Record.schema.value)))).run s).result = _
    rw [Action.bind_run, hall]
    rfl
  · rw [(run_list hs hdecode hrole hlist hwhole bookmark).1, List.take_of_length_le hfew,
      List.getElem?_eq_none hfew]
    rfl

end

/-- A record under the empty key, and another one behind it. -/
def emptyKeyEntries : KeyMap Bytes :=
  (KeyMap.empty.insert "" Record.empty.encode).insert "CTI_67890" Record.empty.encode

/-- The empty key is listed once, and its page goes on to the next key.  Its own key is never a
bookmark, as the empty bookmark stands for the end. -/
theorem empty_key_pages :
    let s : MemoryStore := ⟨emptyKeyEntries, none⟩
    ∃ pages, Follows ⟨.ofRole "HeadOfOperations", .rbac⟩ 1 s "" pages ∧ pages.length = 2 ∧
      pages.flatMap (·.records) = [Record.empty, Record.empty] := by
  have hs : Holds (⟨emptyKeyEntries, none⟩ : MemoryStore) emptyKeyEntries :=
    (MemoryStore.holds_iff _ _).mpr rfl
  have hentries : emptyKeyEntries.entries
      = [("", Record.empty.encode), ("CTI_67890", Record.empty.encode)] := by rfl
  have hdecode : AllDecode emptyKeyEntries.entries := by
    rw [AllDecode, hentries, List.forall_mem_cons, List.forall_mem_singleton]
    exact ⟨⟨_, Record.decode_encode _⟩, _, Record.decode_encode _⟩
  have honward : emptyKeyEntries.onward "" = emptyKeyEntries.entries := by rfl
  obtain ⟨⟨pages, hfollows, hpaged⟩, -⟩ := pages_complete _ _ hs hdecode
    ⟨.ofRole "HeadOfOperations", .rbac⟩ .headOfOperations (by rfl) (by rfl) 1 (by decide) ""
  refine ⟨pages, hfollows, ?_, ?_⟩
  · rw [hpaged.count, honward, hentries]
    rfl
  · rw [hpaged.records, honward, hentries, visible, decoded]
    simp only [List.filterMap_cons, Record.decode_encode]
    rfl

end Ledger
end ThreatLedger
