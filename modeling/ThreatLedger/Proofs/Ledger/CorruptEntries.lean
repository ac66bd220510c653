/-
  Bytes that hold no record, in a listing.

  1. **Pages** — where the rules let a caller list, a listing is the reading of one page: every entry of
     the page is decoded before the rules are asked about its record, and the entry behind the page
     gives its key only.
  2. **Failure** — a listing fails if an entry of its page holds no record, whoever asks, and names the
     first one (`list_unreadable`).  What lies outside the page is never looked at.
-/
import ThreatLedger.Proofs.Ledger.Pagination
import ThreatLedger.Proofs.Store.Reading

namespace ThreatLedger.Ledger

/-! ## Pages -/

theorem decoded_of_map {es : List Entry} {records : List Record}
    (h : es.map (fun e => Record.decode e.2) = records.map .ok) : decoded es = records := by
  have hfilter : decoded es = (es.map fun e => Record.decode e.2).filterMap Except.toOption := by
    rw [List.filterMap_map]
    rfl
  rw [hfilter, h, List.filterMap_map]
  exact List.filterMap_some

/-- A record is shown to a name exactly if the table allows the name to read it. -/
theorem canRead_eq_allows (mode : Mode) (name : String) :
    mode.canRead (.ofName name) = fun record => decide (mode.Allows name (.read record)) :=
  funext fun record => Bool.eq_iff_iff.mpr
    ((mode.canRead_ofName name record).trans decide_eq_true_iff.symm)

/-- What a listing that the rules allow answers: the page is read as a whole, and sifted then. -/
theorem listed_page {session : Session} {name : String} (hname : asking session = .ok name)
    (hallowed : session.mode.Allows name .list) (m : KeyMap Bytes) {size : Int} (hsize : 0 < size)
    (bookmark : String) :
    listed session m size bookmark =
      readEach Record.decode .corrupt ((m.onward bookmark).take size.toNat) >>= fun records =>
        .ok ⟨records.filter fun record => session.mode.Allows name (.read record),
          m.keyBehind bookmark size.toNat⟩ := by
  have hadmitted : admitted session .list = .ok (.ofName name) :=
    admitted_eq_ok.mpr ⟨name, hname, rfl, hallowed⟩
  unfold listed
  rw [hadmitted]
  show ite _ _ _ = _
  rw [if_neg (Int.not_le.mpr hsize), KeyMap.page_all, canRead_eq_allows]
  rfl

/-! ## Failure -/

section

variable {σ : Type} [Store σ] [LawfulStore σ]

/-- **Unreadable entries.**  Whatever a store holds, a listing that the rules allow fails if an entry
of its page holds no record, and only then, whether or not the caller could have seen that record.  The
error names the entry with the smallest key among those.  Otherwise the answer has the records of the
page that the rules let the caller read, and the key of the entry behind the page, whatever else is
unreadable.  The store holds the same afterwards. -/
theorem list_unreadable (s : σ) (m : KeyMap Bytes) (hs : Holds s m) (session : Session)
    (name : String) (hname : asking session = .ok name) (hallowed : session.mode.Allows name .list)
    (size : Int) (hsize : 0 < size) (bookmark : String) :
    let page := (m.onward bookmark).take size.toNat
    let o := (list session size bookmark).run s
    Holds o.store m ∧
      ((∃ e, o.result = .error e) ↔ ∃ entry ∈ page, Unread Record.decode entry) ∧
      (∀ e, o.result = .error e →
        ∃ key cause, FirstUnread Record.decode page key cause ∧ e = .corrupt key cause) ∧
      ((∀ entry ∈ page, ¬Unread Record.decode entry) →
        o.result = .ok ⟨(decoded page).filter fun record => session.mode.Allows name (.read record),
          m.keyBehind bookmark size.toNat⟩) := by
  intro page o
  obtain ⟨hresult, hstore⟩ : o.result = listed session m size bookmark ∧ Holds o.store m :=
    (list_finds session size bookmark).holds (tracks_list LawfulStore.simulates session _ _) hs
  have hsorted : page.Pairwise fun a b => a.1 < b.1 :=
    (m.onward_sorted bookmark).sublist (List.take_sublist ..)
  rw [hresult, listed_page hname hallowed m hsize bookmark]
  refine ⟨hstore, ?_⟩
  rcases readEach_cases Record.decode LedgerError.corrupt hsorted
    with ⟨records, hrecords, hread⟩ | ⟨key, cause, hfirst, hread⟩
  · -- every entry of the page holds a record
    have hall := not_unread_of_map hrecords
    rw [hread, decoded_of_map hrecords]
    refine ⟨iff_of_false ?_ ?_, ?_, fun _ => rfl⟩
    · rintro ⟨_, ⟨⟩⟩
    · rintro ⟨entry, hentry, hunread⟩
      exact hall entry hentry hunread
    · rintro _ ⟨⟩
  · -- the first one that holds none is blamed
    obtain ⟨value, hmem, hvalue⟩ := hfirst.unread
    rw [hread]
    refine ⟨iff_of_true ⟨_, rfl⟩ ⟨_, hmem, cause, hvalue⟩, ?_, fun hall => ?_⟩
    · rintro _ ⟨⟩
      exact ⟨key, cause, hfirst, rfl⟩
    · exact absurd ⟨cause, hvalue⟩ (hall _ hmem)

end

/-- Bytes that hold no record before, in and behind a page, among records that only some may see. -/
def spoiltEntries : KeyMap Bytes :=
  ((((KeyMap.empty.insert "CTI_0" []).insert "CTI_1" Record.empty.encode).insert "CTI_2" [120]).insert
    "CTI_3" [91]).insert "CTI_4" Record.empty.encode

/-- A caller who may see none of the records is told of the first unreadable entry of a page of three,
and of none in a page of one. -/
theorem list_spoilt :
    let s : MemoryStore := ⟨spoiltEntries, none⟩
    let session : Session := ⟨.ofRole "TacticalUnit", .rbac⟩
    (∃ cause, ((list session 3 "CTI_1").run s).result = .error (.corrupt "CTI_2" cause)) ∧
      ((list session 1 "CTI_1").run s).result = .ok ⟨[], "CTI_2"⟩ := by
  intro s session
  have hs : Holds s spoiltEntries := (MemoryStore.holds_iff _ _).mpr rfl
  have hallowed : session.mode.Allows "TacticalUnit" .list := by decide
  have hread : ∀ cause, Record.decode Record.empty.encode ≠ .error cause := by
    intro cause h
    cases (Record.decode_encode _).symm.trans h
  constructor
  · have hpage : (spoiltEntries.onward "CTI_1").take 3
        = [("CTI_1", Record.empty.encode), ("CTI_2", [120]), ("CTI_3", [91])] := by rfl
    obtain ⟨-, hfails, hnames, -⟩ :=
      list_unreadable s _ hs session _ rfl hallowed 3 (by decide) "CTI_1"
    rw [show (3 : Int).toNat = 3 from rfl, hpage] at hfails hnames
    have hunread : Unread Record.decode ("CTI_2", [120]) := ⟨_, rfl⟩
    obtain ⟨e, he⟩ := hfails.mpr ⟨("CTI_2", [120]), by simp, hunread⟩
    obtain ⟨key, cause, ⟨⟨value, hmem, hvalue⟩, hfirst⟩, rfl⟩ := hnames e he
    have hle : key ≤ "CTI_2" := hfirst ("CTI_2", [120]) (by simp) hunread
    simp only [List.mem_cons, Prod.mk.injEq, List.not_mem_nil, or_false] at hmem
    -- the key that is named is one of three, and the first one that is unreadable is the second
    rcases hmem with ⟨rfl, rfl⟩ | ⟨rfl, rfl⟩ | ⟨rfl, rfl⟩
    · exact absurd hvalue (hread cause)
    · exact ⟨cause, he⟩
    · exact absurd hle (by decide)
  · have hpage : (spoiltEntries.onward "CTI_1").take 1 = [("CTI_1", Record.empty.encode)] := by rfl
    obtain ⟨-, -, -, hshows⟩ := list_unreadable s _ hs session _ rfl hallowed 1 (by decide) "CTI_1"
    rw [show (1 : Int).toNat = 1 from rfl, hpage] at hshows
    refine (hshows ?_).trans ?_
    · rintro entry hentry ⟨cause, hcause⟩
      rw [List.mem_singleton.mp hentry] at hcause
      exact hread cause hcause
    · simp only [decoded, List.filterMap_cons, Record.decode_encode]
      rfl

end ThreatLedger.Ledger
