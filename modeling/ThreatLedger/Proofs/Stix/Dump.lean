/-
  Going through all entries of a store, whatever it holds and whichever of its calls are refused.

  1. **The loop** — `Ends` takes page after page until a bookmark is empty or a page fails, with no
     bound on their number; it ends in one way at most.
  2. **Termination** — a page that is not the last one leaves fewer entries onward from its bookmark,
     even if calls are refused on the way.  By induction on the pages that `allFrom` may take, the loop
     ends as `allFrom` does, which never runs out of pages (`allFrom_ends`).
  3. **The dump** — what going through all entries answers (`dump_complete`).
-/
import ThreatLedger.Proofs.Stix.Answers
import ThreatLedger.Proofs.Store.Reading
import ThreatLedger.Proofs.Store.Refusals
import ThreatLedger.Proofs.Store.Scans

open ThreatLedger.Action

namespace ThreatLedger.Stix.Catalog

open RefusingStore

/-! ## The loop -/

section

variable {σ : Type} [Store σ]

/-- The values of one page, and the bookmark of the next one. -/
def pageFrom (bookmark : String) : Action σ LedgerError (List Json.Value × String) := do
  let page ← (Store.scan (.all pageSize bookmark)).lift
  let values ← decodeEntries page.entries
  pure (values, page.bookmark)

/-- Taking pages from a bookmark on until a bookmark is empty or a page fails ends with this outcome. -/
inductive Ends : σ → String → Outcome σ LedgerError (List Json.Value) → Prop
  | failed {s bookmark e s' events} :
    (pageFrom bookmark).run s = ⟨.error e, s', events⟩ → Ends s bookmark ⟨.error e, s', events⟩
  | last {s bookmark values s' events} :
    (pageFrom bookmark).run s = ⟨.ok (values, ""), s', events⟩ →
    Ends s bookmark ⟨.ok values, s', events⟩
  | next {s bookmark values behind s' events o} :
    (pageFrom bookmark).run s = ⟨.ok (values, behind), s', events⟩ → behind ≠ "" →
    Ends s' behind o →
    Ends s bookmark ⟨o.result.map (values ++ ·), o.store, events ++ o.events⟩

/-- There is one way to end: a page is what the store answers, and its bookmark tells whether there is
another.  By induction on one of the two. -/
theorem Ends.unique {s : σ} {bookmark : String} {o o' : Outcome σ LedgerError (List Json.Value)}
    (h : Ends s bookmark o) (h' : Ends s bookmark o') : o = o' := by
  -- the page decides which case it is: two that do not fit would be two answers to one call
  induction h generalizing o' with
  | failed hpage =>
    cases h' with
    | failed hpage' => cases hpage.symm.trans hpage'; rfl
    | last hpage' => cases hpage.symm.trans hpage'
    | next hpage' _ _ => cases hpage.symm.trans hpage'
  | last hpage =>
    cases h' with
    | failed hpage' => cases hpage.symm.trans hpage'
    | last hpage' => cases hpage.symm.trans hpage'; rfl
    | next hpage' hne _ => cases hpage.symm.trans hpage'; exact absurd rfl hne
  | next hpage hne _ ih =>
    cases h' with
    | failed hpage' => cases hpage.symm.trans hpage'
    | last hpage' => cases hpage.symm.trans hpage'; exact absurd rfl hne
    | next hpage' _ hrest => cases hpage.symm.trans hpage'; rw [ih hrest]

/-- One page, and after it as many more as are given. -/
theorem allFrom_eq (more : Nat) (bookmark : String) :
    (allFrom more bookmark : Action σ LedgerError _) = pageFrom bookmark >>= fun page =>
      if page.2 = "" then pure page.1
      else match more with
        | 0 => pure page.1
        | more + 1 => allFrom more page.2 >>= fun rest => pure (page.1 ++ rest) := by
  cases more <;>
    · conv => lhs; unfold allFrom
      simp only [pageFrom, bind_assoc, pure_bind]

end

/-! ## Termination -/

theorem pageFrom_reads (bookmark : String) : MadeOfReads fun σ _ => pageFrom (σ := σ) bookmark := by
  intro _ _ _ _ _ _ h
  refine tracks_bind (tracks_lift (h.scan _)) fun page => ?_
  exact tracks_bind (decodeEntries_reads page.entries h) fun values => tracks_pure _

/-- A page of the dump has the values of its entries, and the key behind them as the bookmark; it fails
if one of them is not JSON. -/
theorem pageFrom_finds {saved : Option (KeyMap Bytes)} {m : KeyMap Bytes} (bookmark : String) :
    Finds saved (pageFrom bookmark) m
      ((valuesOf ((m.onward bookmark).take 100)).map (·, m.keyBehind bookmark 100)) := by
  refine runs_next (page_finds bookmark) ?_
  have hmap : ∀ (r : Except LedgerError (List Json.Value)) (behind : String),
      r.map (·, behind) = r >>= fun values => .ok (values, behind) := by
    intro r behind
    cases r <;> rfl
  rw [hmap]
  exact finds_bind (decodeEntries_finds _) fun values => finds_pure _

/-- The calls that going through entries makes. -/
def IsScanning (call : StoreCall) : Prop := call = .scan ∨ call = .entry

section

variable {σ : Type} [Store σ]

theorem decodeEntries_stops (es : List Entry) :
    StopsAtRefusals IsScanning (decodeEntries es : Action (RefusingStore σ) LedgerError _) := by
  induction es with
  | nil => exact stops_const _ _
  | cons e es ih =>
    refine stops_bind (stops_guarded (.inr rfl) _) fun e => ?_
    exact stops_bind (stops_const _ _) fun value => stops_bind ih fun values => stops_const _ _

theorem pageFrom_stops (bookmark : String) :
    StopsAtRefusals IsScanning (pageFrom bookmark : Action (RefusingStore σ) LedgerError _) := by
  refine stops_bind (stops_guarded (.inl rfl) _) fun page => ?_
  exact stops_bind (decodeEntries_stops page.entries) fun values => stops_const _ _

/-- By induction on the pages that may follow: a dump stops at the first refusal, on whichever page that
is. -/
theorem allFrom_stops (more : Nat) (bookmark : String) :
    StopsAtRefusals IsScanning (allFrom more bookmark : Action (RefusingStore σ) LedgerError _) := by
  induction more generalizing bookmark with
  | zero =>
    rw [allFrom_eq]
    refine stops_bind (pageFrom_stops bookmark) fun page => ?_
    split <;> exact stops_const _ _
  | succ more ih =>
    rw [allFrom_eq]
    refine stops_bind (pageFrom_stops bookmark) fun page => ?_
    split
    · exact stops_const _ _
    · exact stops_bind (ih page.2) fun rest => stops_const _ _

end

section

variable {σ : Type} [Store σ] [LawfulStore σ] {s : RefusingStore σ} {t : ReferenceStore}

/-- A page that is answered has the key of the entry behind it as its bookmark, under refusals as
without them: a refused page is not answered. -/
theorem behind_of_pageFrom (hs : Shows s.store t) {bookmark behind : String}
    {values : List Json.Value} (h : ((pageFrom bookmark).run s).result = .ok (values, behind)) :
    behind = t.entries.keyBehind bookmark 100 := by
  have hfound := eq_ok_under_refusals (pageFrom_reads bookmark) (pageFrom_stops bookmark)
    (pageFrom_finds bookmark) hs h
  obtain ⟨_, -, hpair⟩ := map_eq_ok.mp hfound
  exact (congrArg Prod.snd hpair).symm

/-- **Termination.**  The loop ends as `allFrom` does if that may take as many more pages as there are
entries onward.  The induction is on their number, of which every page but the last one takes some. -/
theorem allFrom_ends (hs : Shows s.store t) {more : Nat} {bookmark : String}
    (hmore : (t.entries.onward bookmark).length ≤ more) :
    Ends s bookmark ((allFrom more bookmark).run s) := by
  induction hn : (t.entries.onward bookmark).length using Nat.strongRecOn
    generalizing s more bookmark with
  | ind n ih =>
    have hshows := (reads_under_refusals (pageFrom_reads bookmark) (pageFrom_finds bookmark) hs).1
    rw [allFrom_eq, run_bind]
    rcases hpage : (pageFrom bookmark).run s with ⟨e | ⟨values, behind⟩, s', events⟩
    · exact .failed hpage
    · rw [hpage] at hshows
      -- a page that is answered goes as far as one without refusals
      have hbehind : behind = t.entries.keyBehind bookmark 100 :=
        behind_of_pageFrom hs (congrArg Outcome.result hpage)
      by_cases hne : behind = ""
      · subst hne
        simp only [if_true, pure_run, Outcome.after, List.append_nil]
        exact .last hpage
      · rcases t.entries.keyBehind_onward bookmark (by decide : 0 < 100) with ⟨-, hnone⟩ | ⟨hmany, -⟩
        · exact absurd (hbehind.trans hnone) hne
        -- a hundred entries are behind us, so there are fewer onward from the next bookmark
        have hleft : (t.entries.onward behind).length = (t.entries.onward bookmark).length - 100 := by
          rw [hbehind, t.entries.keyBehind_eq bookmark hmany, t.entries.onward_key bookmark hmany,
            List.length_drop]
        obtain ⟨more, rfl⟩ : ∃ fewer, more = fewer + 1 := Nat.exists_eq_succ_of_ne_zero (by omega)
        have hrest : Ends s' behind ((allFrom more behind).run s') :=
          ih _ (by omega) hshows (by omega) rfl
        simp only [if_neg hne]
        rw [← map_eq_pure_bind, run_map]
        exact .next hpage hne hrest

end

/-! ## The dump -/

section

variable {σ : Type} [Store σ] [LawfulStore σ]

/-- **The dump.**  On every store, whatever it holds under whatever keys, whether an invocation is open
or not, and whichever of its calls are refused:

- going through all entries page after page ends, in the outcome of `all`;
- the store shows the same afterwards, and only scans and takings of entries were asked of it;
- if none of them was refused, the answer is that of one pass over the entries in the order of their
  keys: all values, each parsed, or the error that names the first key whose value is no JSON;
- if one was, on whichever page, the answer is that refusal. -/
theorem dump_complete (s : RefusingStore σ) (t : ReferenceStore) (hs : Shows s.store t) :
    let o := (all : Action (RefusingStore σ) LedgerError _).run s
    let entries := t.entries.entries
    (∀ o', Ends s "" o' ↔ o' = o) ∧
      Shows o.store.store t ∧
      (∀ call n, Made s o.store call n → IsScanning call) ∧
      t.entries.Selects (fun _ => True) entries ∧
      ((∀ call n, Made s o.store call n → s.refuses call n = false) →
        (∃ values, entries.map (fun e => Json.Value.parse e.2) = values.map .ok ∧
          o.result = .ok values) ∨
        ∃ key cause, FirstUnread Json.Value.parse entries key cause ∧
          o.result = .error (.corrupt key cause)) ∧
      ∀ call n, Made s o.store call n → s.refuses call n = true →
        o.result = .error (.store (.refused call)) := by
  intro o entries
  have hends : Ends s "" o := by
    refine allFrom_ends hs (Nat.le_of_eq ?_)
    rw [t.entries.onward_empty]
    exact congrArg List.length (LawfulStore.simulates.contents hs).symm
  obtain ⟨hshows, hresult⟩ := reads_under_refusals all_reads all_finds hs
  have hstops : o.Stops IsScanning s := allFrom_stops _ _ s
  refine ⟨fun o' => ⟨fun h => h.unique hends, fun h => h ▸ hends⟩, hshows, hstops.kinds, ?_, ?_,
    hstops.refused⟩
  · exact t.entries.selects_all
  · intro hnone
    -- no refusal was met, so the answer is the one without any
    have hvalues : o.result = valuesOf entries := by
      rcases hresult with hresult | ⟨call, n, hmade, hrefused⟩
      · exact hresult
      · cases (hnone call n hmade).symm.trans hrefused
    have hread : valuesOf entries = readEach Json.Value.parse .corrupt entries := rfl
    rw [hvalues, hread]
    exact readEach_cases Json.Value.parse LedgerError.corrupt t.entries.sorted

end

/-- A number under the empty key, and behind it what is no JSON. -/
def halfReadable : KeyMap Bytes := (KeyMap.empty.insert "" [48]).insert "A" [120]

/-- The second entry is blamed where it can be taken, and not where taking it is refused: then the error
is that of the store. -/
theorem dump_halfReadable :
    let outcome (refuses : Schedule) : Outcome (RefusingStore MemoryStore) LedgerError _ :=
      all.run (.ofStore ⟨halfReadable, none⟩ refuses)
    (outcome fun _ _ => false).result = .error (.corrupt "A" .expectedValue) ∧
      (outcome fun call n => call = .entry && n = 1).result =
        .error (.store (.refused .entry)) := by
  intro outcome
  obtain ⟨space, hs⟩ : Holds (⟨halfReadable, none⟩ : MemoryStore) halfReadable :=
    (MemoryStore.holds_iff _ _).mpr rfl
  constructor
  · obtain ⟨-, -, -, -, hunrefused, -⟩ := dump_complete (.ofStore _ fun _ _ => false) _ hs
    have hentries : halfReadable.entries = [("", [48]), ("A", [120])] := by rfl
    have hunread : Json.Value.parse [120] = .error .expectedValue := by rfl
    rcases hunrefused fun _ _ _ => rfl with ⟨values, hvalues, -⟩ | ⟨key, cause, ⟨hkey, -⟩, hresult⟩
    · have hmem : Unread Json.Value.parse ("A", [120]) := ⟨_, hunread⟩
      exact absurd hmem (not_unread_of_map hvalues _ (by rw [hentries]; simp))
    · obtain ⟨value, hmem, hvalue⟩ := hkey
      simp only [hentries, List.mem_cons, Prod.mk.injEq, List.not_mem_nil, or_false] at hmem
      rcases hmem with ⟨rfl, rfl⟩ | ⟨rfl, rfl⟩
      · cases (show (Json.Value.parse [48]).isOk = true from rfl).symm.trans (congrArg _ hvalue)
      · cases hunread.symm.trans hvalue
        exact hresult
  · obtain ⟨-, -, -, -, -, hrefused⟩ :=
      dump_complete (.ofStore _ fun call n => call = .entry && n = 1) _ hs
    exact hrefused .entry 1 ⟨Nat.zero_le _, by decide⟩ rfl

end ThreatLedger.Stix.Catalog
