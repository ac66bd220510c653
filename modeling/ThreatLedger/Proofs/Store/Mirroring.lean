/-
  Two actions on two stores, with related answers.

  1. **Mirroring** — an action mirrors another one if from related stores their answers are related,
     their reports have the same form, and related stores are left behind.  An action that is tracked is
     mirrored with equal answers.  Mirroring goes through every way of building actions, attempts and
     invocations among them.
  2. **Maps** — maps that have the same keys, with related values.  Their pages are cut at the same keys.
  3. **Reference stores** — reference stores are related with their saved copies, so that invocations
     begin and end alike.  The calls of the one mirror those of the other.
-/
import Mathlib.Data.List.Sort
import ThreatLedger.Proofs.Store.Invocations

open ThreatLedger.Action

namespace ThreatLedger

/-! ## Mirroring -/

/-- The severity, the message and the named fields of an event: all that is written down of it. -/
def Event.form (e : Event) : Severity × String × List (String × FieldValue) :=
  (e.severity, e.message, e.fields)

variable {σ τ ε ε' α β α' β' : Type}

/-- Two results that are the same error, or related answers. -/
inductive ResultRel (A : α → β → Prop) : Except ε α → Except ε β → Prop
  | ok {a b} : A a b → ResultRel A (.ok a) (.ok b)
  | error (e : ε) : ResultRel A (.error e) (.error e)

/-- Related answers or the same error, reports of the same form, and related stores. -/
structure Outcome.Mirrors (R : σ → τ → Prop) (A : α → β → Prop) (o : Outcome σ ε α)
    (p : Outcome τ ε β) : Prop where
  result : ResultRel A o.result p.result
  events : o.events.map Event.form = p.events.map Event.form
  store : R o.store p.store

namespace Action

/-- From related stores, `x` and `y` mirror each other. -/
def Mirrors (R : σ → τ → Prop) (A : α → β → Prop) (x : Action σ ε α) (y : Action τ ε β) : Prop :=
  ∀ s t, R s t → (x.run s).Mirrors R A (y.run t)

variable {R : σ → τ → Prop} {A : α → β → Prop} {B : α' → β' → Prop}

/-- What tracks another action mirrors it, with equal answers and equal events.  Nothing strays here, so
there is no other case. -/
theorem mirrors_of_tracks [StoreFailure ε] {x : Action σ ε α} {y : Action τ ε α}
    (h : Tracks R Never x y) : Mirrors R Eq x y := by
  intro s t hst
  have hm := h.matches hst
  refine ⟨?_, congrArg _ hm.events, hm.store⟩
  rw [hm.result]
  cases (y.run t).result with
  | ok a => exact .ok rfl
  | error e => exact .error e

theorem mirrors_pure {a : α} {b : β} (h : A a b) : Mirrors R A (pure a : Action σ ε α) (pure b) :=
  fun _ _ hst => ⟨.ok h, rfl, hst⟩

theorem mirrors_fail (e : ε) : Mirrors R A (.fail e : Action σ ε α) (.fail e) :=
  fun _ _ hst => ⟨.error e, rfl, hst⟩

theorem mirrors_report {e f : Event} (h : e.form = f.form) :
    Mirrors R Eq (.report e : Action σ ε Unit) (.report f) :=
  fun _ _ hst => ⟨.ok rfl, congrArg (fun form => [form]) h, hst⟩

theorem mirrors_ofExcept {r : Except ε α} {q : Except ε β} (h : ResultRel A r q) :
    Mirrors R A (.ofExcept r : Action σ ε α) (.ofExcept q) :=
  fun _ _ hst => ⟨h, rfl, hst⟩

/-- **Sequence.**  What goes on from related answers has to be mirrored, and errors are equal on both
sides, so that nothing goes on from them. -/
theorem mirrors_bind {x : Action σ ε α} {y : Action τ ε β} {f : α → Action σ ε α'}
    {g : β → Action τ ε β'} (hxy : Mirrors R A x y)
    (hfg : ∀ a b, A a b → Mirrors R B (f a) (g b)) : Mirrors R B (x >>= f) (y >>= g) := by
  intro s t hst
  obtain ⟨hresult, hevents, hstore⟩ := hxy s t hst
  rw [run_bind, run_bind]
  revert hresult hevents hstore
  rcases x.run s with ⟨r, s', es⟩
  rcases y.run t with ⟨q, t', fs⟩
  -- related answers go on to the second actions, and equal errors end both
  rintro (⟨hab⟩ | e) hevents hstore
  · obtain ⟨hresult', hevents', hstore'⟩ := hfg _ _ hab s' t' hstore
    refine ⟨hresult', ?_, hstore'⟩
    show (es ++ _).map _ = (fs ++ _).map _
    rw [List.map_append, List.map_append, hevents, hevents']
  · exact ⟨.error e, hevents, hstore⟩

/-- What comes after the same answer, whatever that is. -/
theorem mirrors_behind {x : Action σ ε α} {y : Action τ ε α} {f : α → Action σ ε α'}
    {g : α → Action τ ε β'} (hxy : Mirrors R Eq x y) (hfg : ∀ a, Mirrors R B (f a) (g a)) :
    Mirrors R B (x >>= f) (y >>= g) := by
  refine mirrors_bind hxy ?_
  rintro a _ rfl
  exact hfg a

theorem mirrors_map {x : Action σ ε α} {y : Action τ ε β} {f : α → α'} {g : β → β'}
    (hxy : Mirrors R A x y) (hfg : ∀ a b, A a b → B (f a) (g b)) : Mirrors R B (f <$> x) (g <$> y) := by
  rw [map_eq_pure_bind, map_eq_pure_bind]
  exact mirrors_bind hxy fun a b hab => mirrors_pure (hfg a b hab)

theorem mirrors_attempt {x : Action σ ε α} {y : Action τ ε β} (hxy : Mirrors R A x y) :
    Mirrors R (ResultRel A) (x.attempt : Action σ ε' _) (y.attempt : Action τ ε' _) := by
  intro s t hst
  obtain ⟨hresult, hevents, hstore⟩ := hxy s t hst
  exact ⟨.ok hresult, hevents, hstore⟩

/-- Among more errors, actions of stores mirror each other as they did: errors of one store are equal to
those of the other, and stay so. -/
theorem mirrors_lift [StoreFailure ε] {x : Action σ StoreError α} {y : Action τ StoreError β}
    (hxy : Mirrors R A x y) : Mirrors R A (x.lift : Action σ ε α) y.lift := by
  intro s t hst
  obtain ⟨hresult, hevents, hstore⟩ := hxy s t hst
  refine ⟨?_, hevents, hstore⟩
  rw [run_lift, run_lift]
  generalize (x.run s).result = r, (y.run t).result = q at hresult
  cases hresult with
  | ok hab => exact .ok hab
  | error e => exact .error _

variable [Store σ] [Store τ] [StoreFailure ε]

/-- **Invocations** are mirrored if their bodies are, and their beginnings and ends are tracked. -/
theorem mirrors_atomically {x : Action σ ε α} {y : Action τ ε β}
    (hbegin : Tracks R Never (Store.begin : Action σ StoreError Unit) Store.begin)
    (hcommit : Tracks R Never (Store.commit : Action σ StoreError Unit) Store.commit)
    (hrollback : Tracks R Never (Store.rollback : Action σ StoreError Unit) Store.rollback)
    (hxy : Mirrors R A x y) : Mirrors R A (atomically x) (atomically y) := by
  unfold atomically
  refine mirrors_behind (mirrors_of_tracks (tracks_lift hbegin)) fun _ => ?_
  refine mirrors_bind (mirrors_attempt hxy) ?_
  rintro _ _ (⟨hab⟩ | e)
  · exact mirrors_behind (mirrors_of_tracks (tracks_lift hcommit)) fun _ => mirrors_pure hab
  · exact mirrors_behind (mirrors_of_tracks (tracks_abandon hrollback)) fun _ => mirrors_fail e

end Action

/-! ## Maps -/

theorem isSome_eq_of_rel {R : α → β → Prop} {a : Option α} {b : Option β} (h : Option.Rel R a b) :
    a.isSome = b.isSome := by
  cases h <;> rfl

namespace KeyMap

/-- Maps that have the same keys have them in the same order, since both have them in order. -/
theorem keys_eq {m : KeyMap α} {n : KeyMap β} (h : ∀ k, (m.get? k).isSome = (n.get? k).isSome) :
    m.keys = n.keys := by
  have mem : ∀ {γ : Type} (m : KeyMap γ) k, k ∈ m.keys ↔ (m.get? k).isSome := by
    intro γ m k
    rw [keys, List.mem_map, Option.isSome_iff_exists]
    simp only [get?_eq_some_iff, Prod.exists, exists_and_right, exists_eq_right]
  have sorted : ∀ {γ : Type} (m : KeyMap γ), m.keys.Pairwise (· < ·) := fun m =>
    List.pairwise_map.mpr m.sorted
  refine (sorted m).eq_of_mem_iff (sorted n) fun k => ?_
  rw [mem, mem, h]

/-- Maps that have the same keys, and under each key related values. -/
def Related (K : String → α → β → Prop) (m : KeyMap α) (n : KeyMap β) : Prop :=
  ∀ key, Option.Rel (K key) (m.get? key) (n.get? key)

/-- Entries of related maps. -/
def RelatedEntry (K : String → α → β → Prop) (e : String × α) (f : String × β) : Prop :=
  e.1 = f.1 ∧ K e.1 e.2 f.2

variable {K : String → α → β → Prop} {m : KeyMap α} {n : KeyMap β}

/-- Related maps stay related with related values under one key. -/
theorem Related.insert (h : Related K m n) {key : String} {v : α} {w : β} (hvw : K key v w) :
    Related K (m.insert key v) (n.insert key w) := by
  intro k
  rw [get?_insert, get?_insert]
  by_cases hk : k = key
  · rw [if_pos hk, if_pos hk, hk]
    exact .some hvw
  · rw [if_neg hk, if_neg hk]
    exact h k

/-- Related maps stay related when one key is erased from both: there is nothing under it in either. -/
theorem Related.erase (h : Related K m n) (key : String) :
    Related K (m.erase key) (n.erase key) := by
  intro k
  rw [get?_erase, get?_erase]
  by_cases hk : k = key
  · rw [if_pos hk, if_pos hk]
    exact .none
  · rw [if_neg hk, if_neg hk]
    exact h k

/-- What is related under each key is related entry by entry: the two maps have the same keys in the
same order. -/
theorem Related.entries (h : Related K m n) :
    List.Forall₂ (RelatedEntry K) m.entries n.entries := by
  have hkeys : m.keys = n.keys := keys_eq fun k => isSome_eq_of_rel (h k)
  refine List.forall₂_iff_get.mpr ⟨?_, fun i hi hj => ?_⟩
  · simpa only [keys, List.length_map] using congrArg List.length hkeys
  · -- both maps have the key of this place, and find under it what stands there
    have hkey : m.entries[i].1 = n.entries[i].1 := by
      have := List.getElem_of_eq hkeys (i := i) (by simpa [keys] using hi)
      simpa only [keys, List.getElem_map] using this
    have hm : m.get? m.entries[i].1 = some m.entries[i].2 :=
      get?_eq_some_iff.mpr (List.getElem_mem hi)
    have hn : n.get? m.entries[i].1 = some n.entries[i].2 := by
      rw [hkey]
      exact get?_eq_some_iff.mpr (List.getElem_mem hj)
    have hrel := h m.entries[i].1
    rw [hm, hn] at hrel
    cases hrel with
    | some hr => exact ⟨hkey, hr⟩

/-- A condition on keys keeps the same entries, so that pages are cut at the same places. -/
theorem Related.page {K : String → Bytes → Bytes → Prop} {m n : KeyMap Bytes} (h : Related K m n)
    (scan : Scan) (limit : Nat) :
    List.Forall₂ (RelatedEntry K) (m.page scan limit).entries (n.page scan limit).entries ∧
      (m.page scan limit).bookmark = (n.page scan limit).bookmark := by
  have hwithin : List.Forall₂ (RelatedEntry K) (m.within scan) (n.within scan) :=
    List.rel_filter (fun e f hef => iff_of_eq (congrArg (scan.covers · = true) hef.1)) h.entries
  refine ⟨List.forall₂_take limit hwithin, ?_⟩
  -- the bookmark is the key behind the page, whatever is stored under it
  have hkeys : (m.within scan).map (·.1) = (n.within scan).map (·.1) := by
    rw [← List.forall₂_eq_eq_eq, List.forall₂_map_left_iff, List.forall₂_map_right_iff]
    exact hwithin.imp fun _ _ => And.left
  show ((m.within scan)[limit]?.map (·.1)).getD "" = ((n.within scan)[limit]?.map (·.1)).getD ""
  rw [← List.getElem?_map, hkeys, List.getElem?_map]

end KeyMap

/-! ## Reference stores -/

namespace ReferenceStore

/-- Reference stores that are related in their entries and in their saved copies. -/
structure Related (K : String → Bytes → Bytes → Prop) (s t : ReferenceStore) : Prop where
  entries : KeyMap.Related K s.entries t.entries
  saved : Option.Rel (KeyMap.Related K) s.saved t.saved
  space : s.space = t.space

variable {K : String → Bytes → Bytes → Prop}

theorem tracks_begin : Tracks (Related K) Never
    (Store.begin : Action ReferenceStore StoreError Unit) Store.begin := by
  rintro ⟨m, saved, space⟩ ⟨n, saved', _⟩ ⟨hm, hsaved, rfl⟩
  cases hsaved with
  | none => exact .inl ⟨rfl, rfl, hm, .some hm, rfl⟩
  | some hcopy => exact .inl ⟨rfl, rfl, hm, .some hcopy, rfl⟩

theorem tracks_commit : Tracks (Related K) Never
    (Store.commit : Action ReferenceStore StoreError Unit) Store.commit := by
  rintro ⟨m, saved, space⟩ ⟨n, saved', _⟩ ⟨hm, hsaved, rfl⟩
  cases hsaved with
  | none => exact .inl ⟨rfl, rfl, hm, .none, rfl⟩
  | some hcopy => exact .inl ⟨rfl, rfl, hm, .none, rfl⟩

theorem tracks_rollback : Tracks (Related K) Never
    (Store.rollback : Action ReferenceStore StoreError Unit) Store.rollback := by
  rintro ⟨m, saved, space⟩ ⟨n, saved', _⟩ ⟨hm, hsaved, rfl⟩
  cases hsaved with
  | none => exact .inl ⟨rfl, rfl, hm, .none, rfl⟩
  | some hcopy =>
    -- the entries that come back are the saved ones, which is why those have to be related too
    exact .inl ⟨rfl, rfl, hcopy, .none, rfl⟩

theorem tracks_delete (key : String) : Tracks (Related K) Never
    (Store.delete key : Action ReferenceStore StoreError Unit) (Store.delete key) := by
  rintro ⟨m, saved, space⟩ ⟨n, saved', _⟩ ⟨hm, hsaved, rfl⟩
  exact .inl ⟨rfl, rfl, hm.erase key, hsaved, rfl⟩

/-- Related values may be put under a key.  The values need not be equal, as long as they are related
under that key. -/
theorem tracks_put {key : String} {v w : Bytes} (h : K key v w) : Tracks (Related K) Never
    (Store.put key v : Action ReferenceStore StoreError Unit) (Store.put key w) := by
  rintro ⟨m, saved, space⟩ ⟨n, saved', _⟩ ⟨hm, hsaved, rfl⟩
  exact .inl ⟨rfl, rfl, hm.insert h, hsaved, rfl⟩

theorem mirrors_get (key : String) : Mirrors (Related K) (Option.Rel (K key))
    (Store.get key : Action ReferenceStore StoreError _) (Store.get key) :=
  fun _ _ hst => ⟨.ok (hst.entries key), rfl, hst⟩

theorem mirrors_entry {e f : Entry} (h : KeyMap.RelatedEntry K e f) :
    Mirrors (Related K) (KeyMap.RelatedEntry K)
      (Store.entry e : Action ReferenceStore StoreError _) (Store.entry f) :=
  fun _ _ hst => ⟨.ok h, rfl, hst⟩

/-- Pages with related entries, that go on at the same key. -/
structure RelatedPage (K : String → Bytes → Bytes → Prop) (p q : ScanPage) : Prop where
  entries : List.Forall₂ (KeyMap.RelatedEntry K) p.entries q.entries
  bookmark : p.bookmark = q.bookmark

/-- What is reported of a scan is how many entries it found, and related maps have as many in every
range. -/
theorem mirrors_scan (scan : Scan) : Mirrors (Related K) (RelatedPage K)
    (Store.scan scan : Action ReferenceStore StoreError _) (Store.scan scan) := by
  intro s t hst
  cases hlimit : scan.limit with
  | error e =>
    simp only [Store.scan, Action.run, hlimit]
    exact ⟨.error e, rfl, hst⟩
  | ok limit =>
    obtain ⟨hentries, hbookmark⟩ := hst.entries.page scan limit
    rw [run_scan_ok hlimit, run_scan_ok hlimit, hst.space, hentries.length_eq]
    exact ⟨.ok ⟨hentries, hbookmark⟩, rfl, hst⟩

theorem mirrors_atomically {ε α β : Type} [StoreFailure ε] {A : α → β → Prop}
    {x : Action ReferenceStore ε α} {y : Action ReferenceStore ε β}
    (hxy : Mirrors (Related K) A x y) : Mirrors (Related K) A (atomically x) (atomically y) :=
  Action.mirrors_atomically tracks_begin tracks_commit tracks_rollback hxy

end ReferenceStore
end ThreatLedger
