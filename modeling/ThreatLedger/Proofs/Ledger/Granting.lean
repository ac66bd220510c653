/-
  Granting a record to more names hides nothing.

  1. **Widening** — a map widens another one if it has the same keys, and under each of them a record of
     the same sender that is granted to no fewer names.  What the rules allow for the first record they
     allow for the second one (`allows_read_of_widened`, `allows_update_of_widened`).
  2. **Pages** — both maps are cut at the same keys, and what is shown of the first page is shown of the
     second one.
  3. **Walks** — so by induction along the bookmarks, page by page.
  4. **Lookups** — a UUID leads to records of which the second one is the wider one, so what is read or
     replaced in the first map is in the second one.

  An access list is only asked whether a name is in it.  Lists with the same names widen each other, so
  neither their order nor their repetitions make a difference (`granting_hides_nothing`).
-/
import ThreatLedger.Proofs.Ledger.Mediation
import ThreatLedger.Proofs.Ledger.Privilege

namespace ThreatLedger.Ledger

/-! ## Widening -/

/-- A record is as another one to the rules, but that it may be granted to more names. -/
structure Wider (a b : Record) : Prop where
  sender : a.sender = b.sender
  access : ∀ name ∈ a.access, name ∈ b.access

/-- The bytes under a key hold records of its UUID, of which the second one is wider. -/
def WiderUnder (key : String) (v w : Bytes) : Prop :=
  ∃ a b, ReadsAs key v a ∧ ReadsAs key w b ∧ Wider a b

/-- The same keys, and under each of them a wider record. -/
def Widened (m n : KeyMap Bytes) : Prop :=
  ∀ key, Option.Rel (WiderUnder key) (m.get? key) (n.get? key)

section

variable {mode : Mode} {name : String} {a b : Record}

/-- Whom the narrower record is shown to, the wider one is: the table asks only whether a name is in the
list. -/
theorem mayRead_of_wider (h : Wider a b) (hread : MayRead name a) : MayRead name b := by
  cases hread with
  | head hname => exact .head hname
  | special hname => exact .special hname
  | tactical hname haccess => exact .tactical hname (h.access _ haccess)
  | intelligence hname hsender haccess =>
    exact .intelligence hname (h.sender ▸ hsender) (h.access _ haccess)

/-- A rule that keeps somebody out goes by the sender, which wider records share, and never by who else
is granted the record. -/
theorem mayUpdate_of_wider (h : Wider a b) (hupdate : MayUpdate name a) : MayUpdate name b := by
  cases hupdate with
  | head hname => exact .head hname
  | special hname hsender => exact .special hname (h.sender ▸ hsender)
  | intelligence hname hsender haccess =>
    exact .intelligence hname (h.sender ▸ hsender) (h.access _ haccess)

/-- What may be read may be read with a wider access list, in either mode: without enforcement
everything may. -/
theorem allows_read_of_wider (h : Wider a b) (hread : mode.Allows name (.read a)) :
    mode.Allows name (.read b) := by
  cases mode with
  | openAccess => trivial
  | rbac =>
    cases hread with
    | read hread => exact .read (mayRead_of_wider h hread)

/-- What may be updated may be updated with a wider access list: the sender is the same, and the list
can only allow more. -/
theorem allows_update_of_wider (h : Wider a b) (hupdate : mode.Allows name (.update a)) :
    mode.Allows name (.update b) := by
  cases mode with
  | openAccess => trivial
  | rbac =>
    cases hupdate with
    | update hupdate => exact .update (mayUpdate_of_wider h hupdate)

variable {m n : KeyMap Bytes}

/-- Under a key there is nothing in either map, or a wider record in the second one. -/
theorem Widened.under (h : Widened m n) (key : String) :
    m.get? key = none ∧ n.get? key = none ∨
      ∃ v w, m.get? key = some v ∧ n.get? key = some w ∧ WiderUnder key v w := by
  have hrel := h key
  generalize m.get? key = v at hrel ⊢
  generalize n.get? key = w at hrel ⊢
  cases hrel with
  | none => exact .inl ⟨rfl, rfl⟩
  | some hwider => exact .inr ⟨_, _, rfl, rfl, hwider⟩

theorem widened_empty : Widened .empty .empty := fun _ => .none

/-- Filing a wider record under the same UUID widens a map.  Every other key keeps what it had in
both. -/
theorem Widened.filed (h : Widened m n) (huuid : a.uuid = b.uuid) (hwider : Wider a b) :
    Widened (filed m a) (filed n b) := by
  intro key
  have hkey : a.key = b.key := congrArg Record.keyOf huuid
  rw [Ledger.filed, Ledger.filed, KeyMap.get?_insert, KeyMap.get?_insert, hkey]
  by_cases hk : key = b.key
  · subst hk
    rw [if_pos rfl, if_pos rfl]
    exact .some ⟨a, b, hkey ▸ .encode a, .encode b, hwider⟩
  · rw [if_neg hk, if_neg hk]
    exact h key

theorem Widened.keyed_left (h : Widened m n) : Keyed m := by
  intro key value hget
  rcases h.under key with ⟨hnone, -⟩ | ⟨v, _, hv, -, a, _, ha, -, -⟩
  · cases hget.symm.trans hnone
  · cases hget.symm.trans hv
    exact ⟨a, ha⟩

theorem Widened.keyed_right (h : Widened m n) : Keyed n := by
  intro key value hget
  rcases h.under key with ⟨-, hnone⟩ | ⟨_, w, -, hw, _, b, -, hb, -⟩
  · cases hget.symm.trans hnone
  · cases hget.symm.trans hw
    exact ⟨b, hb⟩

end

/-! ## Pages -/

/-- The UUIDs of the records that a page shows. -/
def shownOn (page : Page) : List String := page.records.map (·.uuid)

/-- Two listings that fail alike, or two pages with the same bookmark, the second of which shows every
UUID that the first one shows. -/
inductive ListsWithin : Except LedgerError Page → Except LedgerError Page → Prop
  | fails (e : LedgerError) : ListsWithin (.error e) (.error e)
  | shows {page other : Page} : page.bookmark = other.bookmark →
    (shownOn page).Sublist (shownOn other) → ListsWithin (.ok page) (.ok other)

section

variable {mode : Mode} {name : String} {m n : KeyMap Bytes} {session : Session}

/-- An entry that holds a record is visible if the record may be seen, and else it is as if it were not
there. -/
theorem visible_cons {role : Role} {e : Entry} {record : Record} (es : List Entry)
    (h : Record.decode e.2 = .ok record) :
    visible mode role (e :: es)
      = if mode.canRead role record then record :: visible mode role es
        else visible mode role es := by
  have hdecoded : decoded (e :: es) = record :: decoded es := by
    simp only [decoded, List.filterMap_cons, h]
    rfl
  rw [visible, hdecoded, List.filter_cons]
  rfl

/-- Entry by entry: a record that is shown is wider in the second list, and shown there too.  The second
list may show more, in between. -/
theorem visible_of_wider {es fs : List Entry}
    (h : List.Forall₂ (fun e f => e.1 = f.1 ∧ WiderUnder e.1 e.2 f.2) es fs) :
    ((visible mode (.ofName name) es).map (·.uuid)).Sublist
      ((visible mode (.ofName name) fs).map (·.uuid)) := by
  induction h with
  | nil => exact List.Sublist.refl _
  | cons hef _ ih =>
    obtain ⟨-, a, b, ha, hb, hwider⟩ := hef
    have huuid : a.uuid = b.uuid := ha.uuid_eq hb
    rw [visible_cons _ ha.decode, visible_cons _ hb.decode]
    by_cases hread : mode.canRead (.ofName name) a
    · have hread' : mode.canRead (.ofName name) b := by
        rw [Mode.canRead_ofName] at hread ⊢
        exact allows_read_of_wider hwider hread
      rw [if_pos hread, if_pos hread', List.map_cons, List.map_cons, huuid]
      exact ih.cons_cons _
    -- whether the wider record is shown or not, the first list shows nothing here
    · rw [if_neg hread]
      by_cases hread' : mode.canRead (.ofName name) b
      · rw [if_pos hread', List.map_cons]
        exact ih.cons _
      · rw [if_neg hread']
        exact ih

/-- Whether a page is refused does not depend on what is stored, and no page fails for it. -/
theorem listed_of_wider (h : Widened m n) (session : Session) (size : Int) (bookmark : String) :
    ListsWithin (listed session m size bookmark) (listed session n size bookmark) := by
  -- both maps have a record under every key, so neither page fails for one
  have decodes : ∀ {m : KeyMap Bytes}, Keyed m →
      decodeAll (m.page (.all size bookmark) size.toNat).entries
        = .ok (decoded (m.page (.all size bookmark) size.toNat).entries) := by
    intro m hkeyed
    apply decodeAll_eq
    intro e he
    exact hkeyed.allDecode e (List.mem_of_mem_filter (List.mem_of_mem_take he))
  unfold listed
  rw [admitted_eq]
  cases asking session with
  | error e => exact .fails e
  | ok name =>
    -- who may list, and what size, is decided alike on both sides
    by_cases hallowed : session.mode.Allows name .list
    · by_cases hsize : size ≤ 0
      · simp only [bind, Except.bind, if_pos hallowed, if_pos hsize]
        exact .fails _
      · obtain ⟨hentries, hbookmark⟩ := KeyMap.Related.page h (.all size bookmark) size.toNat
        simp only [bind, Except.bind, if_pos hallowed, if_neg hsize, decodes h.keyed_left,
          decodes h.keyed_right]
        exact .shows hbookmark (visible_of_wider hentries)
    · simp only [bind, Except.bind, if_neg hallowed]
      exact .fails _

end

/-! ## Walks -/

section

variable {σ τ : Type} [Store σ] [LawfulStore σ] [Store τ] [LawfulStore τ] {m n : KeyMap Bytes}
  {session : Session} {size : Int} {bookmark : String}

theorem run_listed {s : σ} (hs : Holds s m) (session : Session) (size : Int) (bookmark : String) :
    ((list session size bookmark).run s).result = listed session m size bookmark ∧
      Holds ((list session size bookmark).run s).store m :=
  (list_finds session size bookmark).holds (tracks_list LawfulStore.simulates session size bookmark) hs

/-- Who is shown one page can go on to the end, because the refusal of a page goes by who asks and for
what size, and every entry can be read. -/
theorem follows_of_listed {s : σ} (hs : Holds s m) (hkeyed : Keyed m) {page : Page}
    (h : listed session m size bookmark = .ok page) :
    ∃ pages, Follows session size s bookmark pages := by
  obtain ⟨role, hrole, h⟩ := bind_eq_ok.mp h
  -- the page would have been refused otherwise
  have hpositive : ¬size ≤ 0 := by
    intro hsize
    rw [if_pos hsize] at h
    cases h
  obtain ⟨limit, rfl⟩ : ∃ limit : Nat, size = limit := Int.eq_ofNat_of_zero_le (by omega)
  obtain ⟨name, hasking, -, hallowed⟩ := admitted_eq_ok.mp hrole
  have hcaller : callerRole session = .ok (.ofName name) := by
    rw [callerRole_eq, hasking]
    rfl
  have hcheck : session.mode.check (.ofName name) .list = .allow :=
    (session.mode.check_ofName name .list).mpr hallowed
  have hlimit : 0 < limit := by omega
  obtain ⟨pages, hfollows, -⟩ := follows_paged hkeyed.allDecode hcaller hcheck hlimit hs bookmark
  exact ⟨pages, hfollows⟩

/-- Two pages of walks: the same bookmark, and on the second one every UUID of the first one. -/
def PageWithin (page other : Page) : Prop :=
  page.bookmark = other.bookmark ∧ (shownOn page).Sublist (shownOn other)

/-- **Pages.**  A page of the narrower store and one of the wider store, cut at the same place, show the
records of the first and perhaps more. -/
theorem pageWithin_of_wider {s : σ} {t : τ} {page other : Page} (hs : Holds s m) (ht : Holds t n)
    (h : Widened m n) (hpage : ((list session size bookmark).run s).result = .ok page)
    (hother : ((list session size bookmark).run t).result = .ok other) : PageWithin page other := by
  rw [(run_listed hs session size bookmark).1] at hpage
  rw [(run_listed ht session size bookmark).1] at hother
  have hlists := listed_of_wider h session size bookmark
  rw [hpage, hother] at hlists
  cases hlists with
  | shows hbookmark hshown => exact ⟨hbookmark, hshown⟩

/-- One page after the other.  The pages of both walks have the same bookmarks, so the second walk ends
where the first one does. -/
theorem Follows.within {s : σ} {t : τ} {pages others : List Page} (hs : Holds s m)
    (ht : Holds t n) (h : Widened m n) (hpages : Follows session size s bookmark pages)
    (hothers : Follows session size t bookmark others) :
    List.Forall₂ PageWithin pages others := by
  induction hpages generalizing t others with
  | @last s bookmark page hpage hend =>
    cases hothers with
    | last hother _ => exact .cons (pageWithin_of_wider hs ht h hpage hother) .nil
    -- the same bookmark would end one walk and not the other
    | next hother hne _ =>
      have hwithin := pageWithin_of_wider hs ht h hpage hother
      exact absurd (hwithin.1 ▸ hend) hne
  | @next s bookmark page pages hpage hne hrest ih =>
    cases hothers with
    | last hother hend =>
      have hwithin := pageWithin_of_wider hs ht h hpage hother
      exact absurd (hwithin.1.trans hend) hne
    | next hother _ hrest' =>
      have hwithin := pageWithin_of_wider hs ht h hpage hother
      have hs' := (run_listed hs session size bookmark).2
      have ht' := (run_listed ht session size bookmark).2
      rw [← hwithin.1] at hrest'
      exact .cons hwithin (ih hs' ht' hrest')

/-- Pages that are within each other one by one make walks that are.  By induction on the two walks,
which are of one length. -/
theorem shown_of_pages {pages others : List Page} (h : List.Forall₂ PageWithin pages others) :
    (pages.flatMap shownOn).Sublist (others.flatMap shownOn) := by
  induction h with
  | nil => exact List.Sublist.refl _
  | cons hpage _ ih =>
    rw [List.flatMap_cons, List.flatMap_cons]
    exact hpage.2.append ih

/-- Pages that are within each other both ways show the same UUIDs, as each list of them is a sublist of
the other. -/
theorem same_of_pages {pages others : List Page} (h : List.Forall₂ PageWithin pages others)
    (hback : List.Forall₂ PageWithin others pages) :
    pages.map (fun page => (page.bookmark, shownOn page))
      = others.map (fun page => (page.bookmark, shownOn page)) := by
  induction h with
  | nil => rfl
  | cons hpage _ ih =>
    obtain ⟨hpage', hrest'⟩ := List.forall₂_cons.mp hback
    have hshown := hpage.2.antisymm hpage'.2
    rw [List.map_cons, List.map_cons, hpage.1, hshown, ih hrest']

end

/-! ## Lookups -/

section

variable {m n : KeyMap Bytes} {session : Session} {uuid : String} {a : Record}

/-- What is looked up in the narrower store is found in the wider one, with the same sender and a wider
access list. -/
theorem lookUp_of_wider (h : Widened m n) (hfound : lookUp m uuid = .ok a) :
    ∃ b, lookUp n uuid = .ok b ∧ Wider a b := by
  obtain ⟨value, hvalue, hdecode⟩ := lookUp_eq_ok hfound
  rcases h.under (Record.keyOf uuid) with ⟨hnone, -⟩ | ⟨v, w, hv, hw, a', b, ha, hb, hwider⟩
  · cases hvalue.symm.trans hnone
  · cases hvalue.symm.trans hv
    cases hdecode.symm.trans ha.decode
    refine ⟨b, ?_, hwider⟩
    unfold lookUp
    rw [hw]
    exact mapError_eq_ok.mpr hb.decode

/-- What is read from the narrower store is read from the wider one: it is found there, and the rules
show it to whomever they showed the narrower record. -/
theorem found_of_wider (h : Widened m n) (hfound : found session m uuid = .ok a) :
    ∃ b, found session n uuid = .ok b := by
  obtain ⟨stored, hstored, hrest⟩ := bind_eq_ok.mp hfound
  obtain ⟨role, hrole, -⟩ := bind_eq_ok.mp hrest
  obtain ⟨b, hb, hwider⟩ := lookUp_of_wider h hstored
  have hread : admitted session (.read b) = .ok role :=
    admitted_of_imp (fun _ => allows_read_of_wider hwider) hrole
  refine ⟨b, bind_eq_ok.mpr ⟨b, hb, ?_⟩⟩
  rw [hread]
  rfl

/-- What may be replaced in the narrower store may be in the wider one, since it is the stored record
that is judged.  The submitted one is the same on both sides. -/
theorem replaced_of_wider {record : Record} {m' : KeyMap Bytes} (h : Widened m n)
    (hreplaced : replaced session m record = .ok m') :
    ∃ n', replaced session n record = .ok n' := by
  obtain ⟨stored, hstored, hrest⟩ := bind_eq_ok.mp hreplaced
  obtain ⟨role, hrole, -⟩ := bind_eq_ok.mp hrest
  obtain ⟨b, hb, hwider⟩ := lookUp_of_wider h hstored
  have hupdate : admitted session (.update b) = .ok role :=
    admitted_of_imp (fun _ => allows_update_of_wider hwider) hrole
  refine ⟨filed n record, bind_eq_ok.mpr ⟨b, hb, ?_⟩⟩
  rw [hupdate]
  rfl

end

/-! ## Granting -/

section

variable {σ τ : Type} [Store σ] [LawfulStore σ] [Store τ] [LawfulStore τ]

/-- What a caller is shown and may replace in one store, it is shown and may replace in another one. -/
structure ShownWithin (session : Session) (s : σ) (t : τ) : Prop where
  /-- Either both stores refuse the first page, with the same error, or in both the bookmarks lead to an
  end, page by page. -/
  walks : ∀ (size : Int) (bookmark : String),
    (∃ e, ((list session size bookmark).run s).result = .error e ∧
      ((list session size bookmark).run t).result = .error e) ∨
    ∃ pages others, Follows session size s bookmark pages ∧
      Follows session size t bookmark others ∧ List.Forall₂ PageWithin pages others ∧
      (pages.flatMap shownOn).Sublist (others.flatMap shownOn)
  reads : ∀ uuid record, ((read session uuid).run s).result = .ok record →
    ∃ other, ((read session uuid).run t).result = .ok other
  updates : ∀ (command : Command) (record : Record) (reply : Reply), command.Updates record →
    ((command.run session).run s).result = .ok reply →
    ((command.run session).run t).result = .ok reply

/-- **Walks, reads and updates**, together: nothing that the narrower store shows or allows is lost in
the wider one. -/
theorem shownWithin_of_wider {s : σ} {t : τ} {m n : KeyMap Bytes} (hs : Holds s m) (ht : Holds t n)
    (h : Widened m n) (session : Session) : ShownWithin session s t where
  walks size bookmark := by
    have hlists := listed_of_wider h session size bookmark
    rw [(run_listed hs session size bookmark).1, (run_listed ht session size bookmark).1]
    generalize hm : listed session m size bookmark = r at hlists
    generalize hn : listed session n size bookmark = q at hlists
    -- the first page decides: if it is refused so are all, on both sides
    cases hlists with
    | fails e => exact .inl ⟨e, rfl, rfl⟩
    | shows _ _ =>
      obtain ⟨pages, hpages⟩ := follows_of_listed hs h.keyed_left hm
      obtain ⟨others, hothers⟩ := follows_of_listed ht h.keyed_right hn
      have hwithin := hpages.within hs ht h hothers
      exact .inr ⟨pages, others, hpages, hothers, hwithin, shown_of_pages hwithin⟩
  reads uuid record hread := by
    rw [run_read hs session uuid] at hread
    rw [run_read ht session uuid]
    exact found_of_wider h hread
  updates command record reply hupdates hupdate := by
    rw [(run_answer hs session command).1, hupdates.answer, map_eq_ok] at hupdate
    rw [(run_answer ht session command).1, hupdates.answer]
    obtain ⟨_, hanswer, rfl⟩ := hupdate
    obtain ⟨m', hreplaced, rfl⟩ := map_eq_ok.mp hanswer
    obtain ⟨n', hreplaced'⟩ := replaced_of_wider h hreplaced
    rw [hreplaced']
    rfl

/-- **Granting.**  Let two stores hold records of the same UUIDs and senders, each of them granted in the
second store to all names it is granted to in the first one.  Whoever calls, under whatever mode and
with whatever page size: what is shown of the first store is shown of the second one, page by page, and
what may be read or replaced there may be read or replaced here.  If the names are the same, in whatever
order and however often, both stores show the same. -/
theorem granting_hides_nothing (s : σ) (t : τ) (m n : KeyMap Bytes) (hs : Holds s m) (ht : Holds t n)
    (h : Widened m n) (session : Session) :
    ShownWithin session s t ∧
      (Widened n m → ShownWithin session t s ∧
        ∀ (size : Int) (bookmark : String) (pages others : List Page),
          Follows session size s bookmark pages → Follows session size t bookmark others →
          pages.map (fun page => (page.bookmark, shownOn page))
            = others.map (fun page => (page.bookmark, shownOn page))) := by
  refine ⟨shownWithin_of_wider hs ht h session, fun hback => ?_⟩
  refine ⟨shownWithin_of_wider ht hs hback session, ?_⟩
  intro size bookmark pages others hpages hothers
  exact same_of_pages (hpages.within hs ht h hothers) (hothers.within ht hs hback hpages)

end

/-- A record that the intelligence unit has sent and granted to some names. -/
def grantedTo (access : List String) : Record := ⟨"1", "", "", "IntelligenceUnit", "", "", "", access⟩

/-- The intelligence unit reads its record however its name is repeated among others, and the walks
through both stores show the same. -/
theorem repeated_grants_alike :
    let r := grantedTo ["IntelligenceUnit", "Visitor"]
    let q := grantedTo ["Visitor", "IntelligenceUnit", "Visitor"]
    let s : MemoryStore := ⟨stored (Registry.enter .empty r), none⟩
    let t : MemoryStore := ⟨stored (Registry.enter .empty q), none⟩
    let unit : Session := ⟨.ofRole "IntelligenceUnit", .rbac⟩
    ((read unit "1").run s).result = .ok r ∧ (∃ other, ((read unit "1").run t).result = .ok other) ∧
    ∃ pages others, Follows unit 1 s "" pages ∧ Follows unit 1 t "" others ∧
      pages.map (fun page => (page.bookmark, shownOn page))
        = others.map (fun page => (page.bookmark, shownOn page)) := by
  intro r q s t unit
  have hs : Holds s (stored (Registry.enter .empty r)) := (MemoryStore.holds_iff _ _).mpr rfl
  have ht : Holds t (stored (Registry.enter .empty q)) := (MemoryStore.holds_iff _ _).mpr rfl
  have hwider : Wider r q := ⟨rfl, by decide⟩
  have hback : Wider q r := ⟨rfl, by decide⟩
  have hwidened : Widened s.entries t.entries := widened_empty.filed rfl hwider
  obtain ⟨hshown, hsame⟩ := granting_hides_nothing s t _ _ hs ht hwidened unit
  obtain ⟨-, hpages⟩ := hsame (widened_empty.filed rfl hback)
  have hread : ((read unit "1").run s).result = .ok r := by
    rw [run_read hs, found_stored unit (filed_empty.enter r)]
    rfl
  refine ⟨hread, hshown.reads "1" r hread, ?_⟩
  rcases hshown.walks 1 "" with ⟨e, herror, -⟩ | ⟨pages, others, hs', ht', -⟩
  · rw [(run_listed hs unit 1 "").1, listed_stored] at herror
    cases herror
  · exact ⟨pages, others, hs', ht', hpages 1 "" pages others hs' ht'⟩

end ThreatLedger.Ledger
