/-
  What is listed is what can be read.

  1. **Verdicts** — a UUID is read as one of three verdicts: the record is shown, or it is withheld from
     the role, or there is none (`found_verdict`).
  2. **Listing** — the records of all pages are those that the role may see, and these are the records
     with the first verdict (`Verdict.shown_iff`); no other UUID has it (`Verdict.hidden`).
  3. **Refusal** — who may not list may not read any record either.

  The two ways to a record share nothing but the rules: one looks a key up and judges the record that is
  found there, the other one scans pages and filters them.  It is the keys that tie them together: a
  record that a page shows is the one that its UUID leads to only where every record is under the key of
  its UUID (`Keyed`).
-/
import ThreatLedger.Proofs.Ledger.Interleaving

namespace ThreatLedger.Ledger

/-! ## Verdicts -/

/-- What reading a UUID comes to for a role. -/
inductive Verdict (mode : Mode) (role : Role) (m : KeyMap Bytes) (uuid : String) :
    Except LedgerError Record → Prop
  | shown {record} : Readable mode role m.entries record → record.uuid = uuid →
    Verdict mode role m uuid (.ok record)
  | withheld : (m.get? (Record.keyOf uuid)).isSome →
    (∀ record, Readable mode role m.entries record → record.uuid ≠ uuid) →
    Verdict mode role m uuid (.error (.forbidden role .read uuid))
  | absent : m.get? (Record.keyOf uuid) = none →
    Verdict mode role m uuid (.error (.notFound .metadata uuid))

section

variable {m : KeyMap Bytes} {mode : Mode} {role : Role} {session : Session} {name : String}

/-- The entry of a readable record is the one that its UUID leads to. -/
theorem Readable.get? {record : Record} (h : Readable mode role m.entries record) :
    ∃ value, m.get? (Record.keyOf record.uuid) = some value ∧ Record.decode value = .ok record := by
  obtain ⟨⟨value, hmem, hdecode⟩, -⟩ := h
  exact ⟨value, KeyMap.get?_eq_some_iff.mpr hmem, hdecode⟩

/-- What a read answers is the verdict on its record: absent, forbidden, or shown. -/
theorem found_verdict (hkeyed : Keyed m) (hasking : asking session = .ok name) (uuid : String) :
    Verdict session.mode (.ofName name) m uuid (found session m uuid) := by
  unfold found lookUp
  cases hget : m.get? (Record.keyOf uuid) with
  | none => exact .absent hget
  | some value =>
    obtain ⟨record, hdecode, hkey⟩ := hkeyed _ _ hget
    have huuid : uuid = record.uuid := Record.keyOf_inj.mp hkey
    subst huuid
    simp only [decodeStored, hdecode, Except.mapError, bind, Except.bind]
    rw [admitted_eq, hasking]
    by_cases hread : session.mode.Allows name (.read record)
    · have hseen : session.mode.canRead (.ofName name) record :=
        (session.mode.canRead_ofName name record).mpr hread
      have hmem : (Record.keyOf record.uuid, value) ∈ m.entries := KeyMap.get?_eq_some_iff.mp hget
      simp only [bind, Except.bind, if_pos hread]
      exact .shown ⟨⟨value, hmem, hdecode⟩, hseen⟩ rfl
    · simp only [bind, Except.bind, if_neg hread]
      apply Verdict.withheld
      · rw [hget]
        rfl
      · -- another record with this UUID would be under the same key
        intro other hother heq
        obtain ⟨found, hfound, hother'⟩ := hother.get?
        rw [heq, hget] at hfound
        cases hfound
        cases hdecode.symm.trans hother'
        exact hread ((session.mode.canRead_ofName name record).mp hother.seen)

/-! ## Listing -/

/-- The records of all entries that a role may see are the readable ones, so that the pages of a whole
walk can be compared with reads. -/
theorem mem_visible_entries (hkeyed : Keyed m) {record : Record} :
    record ∈ visible mode role m.entries ↔ Readable mode role m.entries record := by
  rw [mem_visible]
  constructor
  · rintro ⟨⟨e, he, hdecode⟩, hseen⟩
    have hkey : e.1 = record.key := hkeyed.key_eq he hdecode
    exact ⟨⟨e.2, (hkey ▸ he : (record.key, e.2) ∈ m.entries), hdecode⟩, hseen⟩
  · rintro ⟨⟨value, hmem, hdecode⟩, hseen⟩
    exact ⟨⟨_, hmem, hdecode⟩, hseen⟩

variable {uuid : String} {answer : Except LedgerError Record}

/-- A record is the answer for its own UUID, and only for that, if it is readable.  One key leads to one
record, so no other one can be the answer. -/
theorem Verdict.shown_iff (h : Verdict mode role m uuid answer) (record : Record) :
    answer = .ok record ↔ Readable mode role m.entries record ∧ record.uuid = uuid := by
  constructor
  · rintro rfl
    cases h with
    | shown hreadable huuid => exact ⟨hreadable, huuid⟩
  · rintro ⟨hreadable, rfl⟩
    obtain ⟨value, hget, hdecode⟩ := hreadable.get?
    cases h with
    -- another record of this UUID is under the same key, and so it is this one
    | @shown other hother huuid =>
      obtain ⟨value', hget', hdecode'⟩ := hother.get?
      rw [huuid, hget] at hget'
      cases hget'
      exact congrArg Except.ok (Except.ok.inj (hdecode'.symm.trans hdecode))
    | withheld _ hnone => exact absurd rfl (hnone record hreadable)
    | absent hnone => cases hget.symm.trans hnone

/-- A UUID that no readable record has is refused if it is stored, and otherwise it is not found. -/
theorem Verdict.hidden (h : Verdict mode role m uuid answer)
    (hnone : ∀ record, Readable mode role m.entries record → record.uuid ≠ uuid) :
    answer = .error (if (m.get? (Record.keyOf uuid)).isSome then .forbidden role .read uuid
      else .notFound .metadata uuid) := by
  cases h with
  | shown hreadable huuid => exact absurd huuid (hnone _ hreadable)
  | withheld hstored _ => rw [if_pos hstored]
  | absent habsent =>
    rw [habsent]
    rfl

/-! ## Refusal -/

/-- Whoever may read some record may list: every row that permits a read is for a name that may list as
well. -/
theorem allows_list_of_read {record : Record} (h : mode.Allows name (.read record)) :
    mode.Allows name .list := by
  cases mode with
  | openAccess => trivial
  | rbac =>
    apply Permits.list
    cases h with
    | read hread => rcases hread with rfl | rfl | ⟨rfl, -⟩ | ⟨rfl, -⟩ <;> decide

/-- To whom listing is refused, no record is readable. -/
theorem not_readable_of_not_list (h : ¬mode.Allows name .list) (record : Record) :
    ¬Readable mode (.ofName name) m.entries record := by
  intro hreadable
  exact h (allows_list_of_read ((mode.canRead_ofName name record).mp hreadable.seen))

/-- A name that may not list is refused every page, with the same denial, before its size and its
bookmark are looked at. -/
theorem listed_refused (hasking : asking session = .ok name)
    (h : ¬session.mode.Allows name .list) (size : Int) (bookmark : String) :
    listed session m size bookmark = .error (.unauthorized ⟨.ofName name, .list, none⟩) := by
  unfold listed
  rw [admitted_eq, hasking]
  simp only [bind, Except.bind, if_neg h]
  rfl

end

section

variable {σ : Type} [Store σ] [LawfulStore σ]

theorem run_read {s : σ} {m : KeyMap Bytes} (hs : Holds s m) (session : Session) (uuid : String) :
    ((read session uuid).run s).result = found session m uuid :=
  ((read_finds session uuid).holds (tracks_read LawfulStore.simulates session uuid) hs).1

/-- The bookmarks lead to an end, and the records of all pages are the readable ones. -/
theorem follows_readable {s : σ} {m : KeyMap Bytes} (hs : Holds s m) (hkeyed : Keyed m)
    {session : Session} {name : String} (hasking : asking session = .ok name)
    (hallowed : session.mode.Allows name .list) {size : Nat} (hsize : 0 < size) :
    ∃ pages, Follows session size s "" pages ∧ ∀ record, record ∈ pages.flatMap (·.records) ↔
      Readable session.mode (.ofName name) m.entries record := by
  have hrole : callerRole session = .ok (.ofName name) := by
    rw [callerRole_eq, hasking]
    rfl
  have hlist : session.mode.check (.ofName name) .list = .allow :=
    (session.mode.check_ofName name .list).mpr hallowed
  obtain ⟨pages, hfollows, hpaged⟩ := follows_paged hkeyed.allDecode hrole hlist hsize hs ""
  refine ⟨pages, hfollows, fun record => ?_⟩
  rw [hpaged.records, KeyMap.onward_empty]
  exact mem_visible_entries hkeyed

/-- **Agreement.**  Let every record be under the key of its UUID.  A caller who may list comes to the
end of the pages, whatever their size.  Then reading a UUID answers with a record if and only if that
record is on one of the pages and has the UUID; every other UUID is forbidden if it is stored, and not
found if it is not.  To a caller who may not list every page is refused, and every UUID that is
stored. -/
theorem listed_iff_read (s : σ) (m : KeyMap Bytes) (hs : Holds s m) (hkeyed : Keyed m)
    (session : Session) (name : String) (hasking : asking session = .ok name) :
    let answer := fun uuid => ((read session uuid).run s).result
    (session.mode.Allows name .list → ∀ size : Nat, 0 < size →
      (∃ pages, Follows session size s "" pages) ∧
      ∀ pages, Follows session size s "" pages →
        let records := pages.flatMap (·.records)
        (∀ uuid record, answer uuid = .ok record ↔ record ∈ records ∧ record.uuid = uuid) ∧
        ∀ uuid, (∀ record ∈ records, record.uuid ≠ uuid) →
          answer uuid = .error (if (m.get? (Record.keyOf uuid)).isSome
            then .forbidden (.ofName name) .read uuid else .notFound .metadata uuid)) ∧
    (¬session.mode.Allows name .list →
      (∀ size bookmark, ((list session size bookmark).run s).result =
        .error (.unauthorized ⟨.ofName name, .list, none⟩)) ∧
      ∀ uuid, (m.get? (Record.keyOf uuid)).isSome →
        answer uuid = .error (.forbidden (.ofName name) .read uuid)) := by
  intro answer
  -- both halves are read off the verdict on a UUID
  have hverdict : ∀ uuid, Verdict session.mode (.ofName name) m uuid (answer uuid) := by
    intro uuid
    show Verdict _ _ _ _ (((read session uuid).run s).result)
    rw [run_read hs session uuid]
    exact found_verdict hkeyed hasking uuid
  refine ⟨?listing, ?refused⟩
  case listing =>
    intro hallowed size hsize
    obtain ⟨pages, hfollows, hreadable⟩ := follows_readable hs hkeyed hasking hallowed hsize
    refine ⟨⟨pages, hfollows⟩, fun others hothers => ?_⟩
    -- the bookmarks can be followed in one way, so these are the pages of before
    obtain rfl := hothers.unique hfollows
    refine ⟨fun uuid record => ?_, fun uuid hnone => ?_⟩
    · rw [hreadable]
      exact (hverdict uuid).shown_iff record
    · apply (hverdict uuid).hidden
      intro record hshown
      exact hnone record ((hreadable record).mpr hshown)
  case refused =>
    intro hrefused
    refine ⟨fun size bookmark => ?_, fun uuid hstored => ?_⟩
    · rw [← listed_refused hasking hrefused size bookmark]
      exact ((list_finds session size bookmark).holds
        (tracks_list LawfulStore.simulates session size bookmark) hs).1
    · rw [(hverdict uuid).hidden ?_, if_pos hstored]
      intro record hreadable
      exact absurd hreadable (not_readable_of_not_list hrefused record)

end

/-- The tactical unit is shown the second of the two seeds, and can read that one only.  Somebody whose
role is not recognized is shown nothing. -/
theorem seeds_shown :
    let s : MemoryStore := ⟨stored (Record.seeds.foldl Registry.enter .empty), none⟩
    let unit : Session := ⟨.ofRole "TacticalUnit", .rbac⟩
    let visitor : Session := ⟨.ofRole "Visitor", .rbac⟩
    (∃ pages, Follows unit 1 s "" pages ∧
      Record.seeds[1] ∈ pages.flatMap (·.records) ∧
      ∀ record ∈ pages.flatMap (·.records), record.uuid ≠ "12345") ∧
    ((read unit "67890").run s).result = .ok Record.seeds[1] ∧
    ((read unit "12345").run s).result = .error (.forbidden .tacticalUnit .read "12345") ∧
    ((list visitor 1 "").run s).result =
      .error (.unauthorized ⟨.unrecognized "Visitor", .list, none⟩) ∧
    ((read visitor "67890").run s).result =
      .error (.forbidden (.unrecognized "Visitor") .read "67890") := by
  intro s unit visitor
  let seeds : Registry := Record.seeds.foldl Registry.enter .empty
  have horderly : Orderly seeds := ⟨filed_empty.enterAll Record.seeds, rfl⟩
  have hs : Holds s (stored seeds) := (MemoryStore.holds_iff _ _).mpr rfl
  have hkeyed : Keyed (stored seeds) := horderly.wellKept.keyed
  obtain ⟨hshown, -⟩ := listed_iff_read s _ hs hkeyed unit "TacticalUnit" (by rfl)
  obtain ⟨-, hrefused⟩ := listed_iff_read s _ hs hkeyed visitor "Visitor" (by rfl)
  obtain ⟨⟨pages, hfollows⟩, hpages⟩ := hshown (by decide) 1 (by decide)
  obtain ⟨hread, -⟩ := hpages pages hfollows
  obtain ⟨hlist, hforbidden⟩ := hrefused (by decide)
  -- what a UUID is read as is read off the map of records
  have hanswer : ∀ uuid, ((read unit uuid).run s).result = Registry.found unit seeds uuid :=
    fun uuid => (run_read hs unit uuid).trans (found_stored unit horderly.filed uuid)
  have hfirst : ((read unit "12345").run s).result
      = .error (.forbidden .tacticalUnit .read "12345") := hanswer "12345"
  have hsecond : ((read unit "67890").run s).result = .ok Record.seeds[1] := hanswer "67890"
  refine ⟨⟨pages, hfollows, ?_, fun record hrecord huuid => ?_⟩, hsecond, hfirst, hlist 1 "",
    hforbidden "67890" (by rfl)⟩
  · exact ((hread "67890" Record.seeds[1]).mp hsecond).1
  · cases hfirst.symm.trans ((hread "12345" record).mpr ⟨hrecord, huuid⟩)

end ThreatLedger.Ledger
