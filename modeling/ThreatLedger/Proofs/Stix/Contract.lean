/-
  The catalog over whole runs: what it accepts, and that it keeps everything that it has accepted.

  1. **Submissions** — what a text has to be for an object of a kind to come out of it.
  2. **Entries** — `Lists` says that the entries of a store are objects that are read back as they
     are, each under its id.  Then every lookup finds its object, and all values are found in the
     order of the ids.
  3. **Runs** — a create that is answered adds its object to that list and one that is refused adds
     nothing, so by induction the list is a permutation of the objects that were answered
     (`creates_serve`).
-/
import ThreatLedger.Proofs.Stix.Answers
import ThreatLedger.Proofs.Stix.RoundTrip
import ThreatLedger.Proofs.Store.Backends
import ThreatLedger.Proofs.Text.ByteOrder

namespace ThreatLedger.Stix.Catalog

/-! ## Submissions -/

/-- A text submits an object of a kind: it is that object in JSON, the object carries the tag of the
kind, and no required property of it is empty. -/
structure Submits (kind : Kind) (text : String) (o : Object) : Prop where
  parsed : Object.parse kind (Bytes.ofText text) = .ok o
  tagged : o.typeTag = kind.name
  filled : ∀ property ∈ o.required, property.2 ≠ ""

theorem missing_eq_nil {o : Object} : o.missing = [] ↔ ∀ property ∈ o.required, property.2 ≠ "" := by
  simp [Object.missing]

/-- An object has no flaw exactly if its tag is that of the kind and no required property is empty. -/
theorem flaw?_eq_none {kind : Kind} {o : Object} :
    flaw? kind o = none ↔ o.typeTag = kind.name ∧ ∀ property ∈ o.required, property.2 ≠ "" := by
  rw [← missing_eq_nil, flaw?]
  split
  · next htag => exact iff_of_false (by rintro ⟨⟩) fun h => htag h.1
  · next htag =>
    split
    · next hmissing => exact iff_of_false (by rintro ⟨⟩) fun h => by simp [h.2] at hmissing
    · next hmissing => exact iff_of_true rfl ⟨not_not.mp htag, by simpa using hmissing⟩

/-- **Submission.**  A text is admissible exactly if it is parsed as an object of the kind, with its tag
and its required properties. -/
theorem admissible_eq_ok {kind : Kind} {text : String} {o : Object} :
    admissible kind text = .ok o ↔ Submits kind text o := by
  unfold admissible
  constructor
  · -- a text that is refused is not parsed, or has a flaw
    intro h
    split at h
    · cases h
    · next found hparsed =>
      split at h
      · cases h
      · next hflaw =>
        cases h
        obtain ⟨htag, hfilled⟩ := flaw?_eq_none.mp hflaw
        exact ⟨hparsed, htag, hfilled⟩
  · rintro ⟨hparsed, htag, hfilled⟩
    rw [hparsed]
    simp only [flaw?_eq_none.mpr ⟨htag, hfilled⟩]

/-- An object is created exactly if it is submitted and its id is free, and then its encoding is what is
under that. -/
theorem created_eq_ok {m m' : KeyMap Bytes} {kind : Kind} {text : String} {o : Object} :
    created m kind text = .ok (o, m') ↔
      Submits kind text o ∧ m.get? o.id = none ∧ m' = m.insert o.id o.encode := by
  rw [← admissible_eq_ok, created, bind_eq_ok]
  constructor
  · -- what was created was admissible and placed, and it was placed under a free id
    rintro ⟨_, hadmissible, h⟩
    obtain ⟨_, hplaced, ⟨⟩⟩ := bind_eq_ok.mp h
    unfold placed at hplaced
    split at hplaced
    · cases hplaced
    · next hfree =>
      cases hplaced
      exact ⟨hadmissible, by simpa using hfree, rfl⟩
  · rintro ⟨hadmissible, hfree, rfl⟩
    have hplaced : placed m kind o = .ok (m.insert o.id o.encode) := by simp [placed, hfree]
    exact ⟨o, hadmissible, bind_eq_ok.mpr ⟨_, hplaced, rfl⟩⟩

/-! ## Entries -/

/-- How an object is stored. -/
def entryOf (o : Object) : Entry := (o.id, o.encode)

/-- The entries are those of objects that are read back as they are. -/
structure Lists (m : KeyMap Bytes) (objects : List Object) : Prop where
  entries : m.entries = objects.map entryOf
  sound : ∀ o ∈ objects, o.Sound

theorem lists_empty : Lists .empty [] := ⟨rfl, fun _ ho => absurd ho List.not_mem_nil⟩

section

variable {m : KeyMap Bytes} {objects : List Object} {o : Object}

theorem Lists.get (h : Lists m objects) (ho : o ∈ objects) : m.get? o.id = some o.encode := by
  rw [KeyMap.get?_eq_some_iff, h.entries]
  exact List.mem_map_of_mem ho

/-- An id is free if no object has it, since the keys of the entries are the ids of the objects. -/
theorem Lists.free_iff (h : Lists m objects) (id : String) :
    m.get? id = none ↔ ∀ o ∈ objects, o.id ≠ id := by
  constructor
  · rintro hfree o ho rfl
    rw [h.get ho] at hfree
    cases hfree
  · intro hfresh
    refine Option.eq_none_iff_forall_ne_some.mpr fun value hvalue => ?_
    rw [KeyMap.get?_eq_some_iff, h.entries] at hvalue
    obtain ⟨o, ho, heq⟩ := List.mem_map.mp hvalue
    exact hfresh o ho (congrArg Prod.fst heq)

/-- Each listed object is found by its id and read back as itself, by its own kind.  That it is sound is
what lets it be read back. -/
theorem Lists.found (h : Lists m objects) (ho : o ∈ objects) : found m o.kind o.id = .ok o := by
  rw [Catalog.found, h.get ho]
  exact mapError_eq_ok.mpr (Object.parse_encode (h.sound o ho))

/-- The stored values are those of the listed objects, in the order of the list, with their members
sorted. -/
theorem Lists.values (h : Lists m objects) :
    valuesOf m.entries = .ok (objects.map (·.value.sorted)) := by
  obtain ⟨hentries, hsound⟩ := h
  rw [hentries]
  -- the induction is on the objects alone: fewer of them are not the entries of this map
  clear hentries
  induction objects with
  | nil => rfl
  | cons o objects ih =>
    obtain ⟨ho, hobjects⟩ := List.forall_mem_cons.mp hsound
    have hvalue : valueOf (entryOf o) = .ok o.value.sorted :=
      mapError_eq_ok.mpr (Object.value_parse_encode ho)
    rw [List.map_cons, valuesOf_cons, hvalue, ih hobjects]
    rfl

theorem Lists.increasing (h : Lists m objects) :
    objects.Pairwise fun a b => Bytes.ofText a.id < Bytes.ofText b.id := by
  have hsorted := m.sorted
  rw [h.entries, List.pairwise_map] at hsorted
  exact hsorted.imp fun hlt => Bytes.ofText_lt hlt

/-- An object with a new id takes its place among the others.  By induction on them, along the
comparison of their ids. -/
theorem insertEntry_objects (hfresh : ∀ x ∈ objects, x.id ≠ o.id) :
    ∃ objects' : List Object, objects'.Perm (o :: objects) ∧
      KeyMap.insertEntry o.id o.encode (objects.map entryOf) = objects'.map entryOf := by
  induction objects with
  | nil => exact ⟨[o], .refl _, rfl⟩
  | cons x objects ih =>
    obtain ⟨hx, hobjects⟩ := List.forall_mem_cons.mp hfresh
    obtain ⟨objects', hperm, hinsert⟩ := ih hobjects
    -- the ids differ, so nothing is ever put in the place of another object
    rw [List.map_cons, KeyMap.insertEntry]
    split
    · exact ⟨o :: x :: objects, .refl _, rfl⟩
    · next hback =>
      have hfront : (entryOf x).1 < o.id := KeyMap.lt_of_ne hx hback
      refine ⟨x :: objects', (hperm.cons x).trans (.swap o x objects), ?_⟩
      rw [if_pos hfront, hinsert, List.map_cons]

/-- A new object is listed in its place: the order is that of the ids, and no other object has its
own. -/
theorem Lists.insert (h : Lists m objects) (ho : o.Sound) (hfresh : ∀ x ∈ objects, x.id ≠ o.id) :
    ∃ objects', objects'.Perm (o :: objects) ∧ Lists (m.insert o.id o.encode) objects' := by
  obtain ⟨objects', hperm, hinsert⟩ := insertEntry_objects hfresh
  refine ⟨objects', hperm, ?_, fun x hx => ?_⟩
  · rw [← hinsert, ← h.entries]
    rfl
  · exact List.forall_mem_cons.mpr ⟨ho, h.sound⟩ x (hperm.mem_iff.mp hx)

/-- In whatever order the objects are known, a new one is known besides. -/
theorem lined_insert (h : ∃ lined, Lists m lined ∧ lined.Perm objects) (ho : o.Sound)
    (hfree : m.get? o.id = none) :
    ∃ lined, Lists (m.insert o.id o.encode) lined ∧ lined.Perm (o :: objects) := by
  obtain ⟨lined, hlined, hperm⟩ := h
  obtain ⟨lined', hperm', hlined'⟩ := hlined.insert ho ((hlined.free_iff o.id).mp hfree)
  exact ⟨lined', hlined', hperm'.trans (hperm.cons o)⟩

end

/-! ## Runs -/

/-- What creates one after the other are answered, and the store afterwards. -/
def createAll {σ : Type} [Store σ] (s : σ) (steps : List (Kind × String)) :
    List (Except LedgerError Object) × σ :=
  Action.runAll s (steps.map fun step => create step.1 step.2)

/-- The objects that creates were answered with. -/
def accepted (results : List (Except LedgerError Object)) : List Object :=
  results.filterMap Except.toOption

/-- What is accepted later is behind what was accepted before; the order of acceptance is not that of
the list, so only a permutation is kept. -/
theorem accepted_cons (result : Except LedgerError Object)
    (results : List (Except LedgerError Object)) (objects : List Object) :
    (accepted results ++ (accepted [result] ++ objects)).Perm
      (accepted (result :: results) ++ objects) := by
  have hsplit : accepted (result :: results) = accepted [result] ++ accepted results :=
    List.filterMap_append (l := [result])
  rw [hsplit, List.append_assoc]
  exact List.perm_append_comm_assoc _ _ _

/-- A store that answers with these objects, and they are in the order of the bytes of their ids. -/
structure Serves {σ : Type} [Store σ] (s : σ) (objects : List Object) : Prop where
  increasing : objects.Pairwise fun a b => Bytes.ofText a.id < Bytes.ofText b.id
  contents : Store.contents s = objects.map fun o => (o.id, o.encode)
  holds : ∀ o ∈ objects, ((holds o.id).run s).result = .ok true
  reads : ∀ o ∈ objects, ((read o.kind o.id).run s).result = .ok o
  all : (all.run s).result = .ok (objects.map (·.value.sorted))

section

variable {σ : Type} [Store σ] [LawfulStore σ] {s : σ} {m : KeyMap Bytes} {objects : List Object}

/-- On every lawful store a creation answers as on the map of its entries, and leaves behind what it
makes of that. -/
theorem create_holds (hs : Holds s m) (kind : Kind) (text : String) :
    ((create kind text).run s).result = (created m kind text).map (·.1) ∧
      Holds ((create kind text).run s).store
        (((created m kind text).map (·.2)).toOption.getD m) :=
  (create_runs kind text).holds (tracks_create LawfulStore.simulates kind text) hs

theorem run_read (hs : Holds s m) (kind : Kind) (id : String) :
    ((read kind id).run s).result = found m kind id :=
  ((read_finds kind id).holds (read_reads kind id LawfulStore.simulates.toReadsTrack) hs).1

/-- A create succeeds exactly with the object that the text submits, under an id that is new.  Nothing
else can refuse it on a store that lets its calls through. -/
theorem create_eq_ok (hs : Holds s m) (h : Lists m objects) (kind : Kind) (text : String)
    (o : Object) :
    ((create kind text).run s).result = .ok o ↔
      Submits kind text o ∧ ∀ x ∈ objects, x.id ≠ o.id := by
  rw [(create_holds hs kind text).1, map_eq_ok, ← h.free_iff]
  constructor
  · rintro ⟨⟨_, m'⟩, hcreated, rfl⟩
    obtain ⟨hsubmits, hfree, -⟩ := created_eq_ok.mp hcreated
    exact ⟨hsubmits, hfree⟩
  · rintro ⟨hsubmits, hfree⟩
    exact ⟨_, created_eq_ok.mpr ⟨hsubmits, hfree, rfl⟩, rfl⟩

/-- A create that is refused leaves the entries as they are: the text is read before the store is asked,
and the id is looked up before anything is put. -/
theorem create_refused (hs : Holds s m) {kind : Kind} {text : String} {e : LedgerError}
    (h : ((create kind text).run s).result = .error e) :
    Holds ((create kind text).run s).store m := by
  obtain ⟨hresult, hstore⟩ := create_holds hs kind text
  rw [h] at hresult
  rwa [map_eq_error.mp hresult.symm] at hstore

/-- **One step.**  What is known of the entries and of the objects that were accepted, and is kept when
an object is stored under a free id, is known behind a create. -/
theorem create_keeps {I : KeyMap Bytes → List Object → Prop} {P : Object → Prop}
    (hinsert : ∀ {m objects o}, I m objects → P o → m.get? o.id = none →
      I (m.insert o.id o.encode) (o :: objects))
    (hs : Holds s m) (h : I m objects) {kind : Kind} {text : String}
    (hP : ∀ o, Submits kind text o → P o) :
    ∃ m', Holds ((create kind text).run s).store m' ∧
      I m' (accepted [((create kind text).run s).result] ++ objects) := by
  obtain ⟨hresult, hstore⟩ := create_holds hs kind text
  rw [hresult]
  -- a create that is refused leaves both the entries and the objects that were accepted
  cases hcreated : created m kind text with
  | error e =>
    rw [hcreated] at hstore
    exact ⟨m, hstore, h⟩
  | ok made =>
    obtain ⟨o, m'⟩ := made
    rw [hcreated] at hstore
    obtain ⟨hsubmits, hfree, rfl⟩ := created_eq_ok.mp hcreated
    exact ⟨_, hstore, hinsert h (hP o hsubmits) hfree⟩

/-- **Every run.**  So it is known behind any creates, of the objects from before them and those that
were accepted. -/
theorem creates_keep {I : KeyMap Bytes → List Object → Prop} {P : Object → Prop}
    (hinsert : ∀ {m objects o}, I m objects → P o → m.get? o.id = none →
      I (m.insert o.id o.encode) (o :: objects))
    (hs : Holds s m) (h : I m objects) (steps : List (Kind × String))
    (hP : ∀ step ∈ steps, ∀ o, Submits step.1 step.2 o → P o) :
    ∃ m' objects', Holds (createAll s steps).2 m' ∧ I m' objects' ∧
      objects'.Perm (accepted (createAll s steps).1 ++ objects) := by
  induction steps generalizing s m objects with
  | nil => exact ⟨m, objects, hs, h, .refl _⟩
  | cons step steps ih =>
    obtain ⟨kind, text⟩ := step
    obtain ⟨hfirst, hrest⟩ := List.forall_mem_cons.mp hP
    obtain ⟨_, hs₁, h₁⟩ := create_keeps hinsert hs h hfirst
    obtain ⟨m', objects', hs', h', hperm⟩ := ih hs₁ h₁ hrest
    -- what the first create has accepted was there when the others came
    exact ⟨m', objects', hs', h', hperm.trans (accepted_cons ..)⟩

/-- Behind creates the store has the objects from before them, and those that were accepted.  By
induction on the creates, each of which adds one object or none. -/
theorem create_steps (hs : Holds s m) (h : Lists m objects) (steps : List (Kind × String))
    (hwhole : ∀ step ∈ steps, ∀ o, Object.parse step.1 (Bytes.ofText step.2) = .ok o → o.Whole) :
    ∃ m' objects', Holds (createAll s steps).2 m' ∧ Lists m' objects' ∧
      objects'.Perm (accepted (createAll s steps).1 ++ objects) := by
  -- the objects of the entries are in the order of their ids, and not in that of the creates
  obtain ⟨m', objects', hs', ⟨lined, hlined, hlinedPerm⟩, hperm⟩ :=
    creates_keep (I := fun m objects => ∃ lined, Lists m lined ∧ lined.Perm objects)
      lined_insert hs ⟨objects, h, .refl _⟩ steps fun step hstep o hsubmits =>
        Object.sound_of_parse hsubmits.parsed (hwhole step hstep o hsubmits.parsed)
  exact ⟨m', lined, hs', hlined, hlinedPerm.trans hperm⟩

/-- What the entries list, the store answers with: to reads by id and by kind, to questions whether an
id is there, and to the dump. -/
theorem Lists.serves (h : Lists m objects) (hs : Holds s m) : Serves s objects where
  increasing := h.increasing
  contents := hs.contents.trans h.entries
  holds o ho := by
    have htracks := holds_reads o.id (LawfulStore.simulates (σ := σ)).toReadsTrack
    rw [((holds_finds o.id).holds htracks hs).1, h.get ho]
    rfl
  reads o ho := (run_read hs o.kind o.id).trans (h.found ho)
  all := by
    have htracks := all_reads (LawfulStore.simulates (σ := σ)).toReadsTrack
    rw [(all_finds.holds htracks hs).1, h.values]

/-- **Contract.**  From an empty store, any texts are submitted as objects of any kinds, where the
numbers inside the raw objects of a bundle are integers.  At every point of such a run the store has
exactly one entry for each object that was accepted so far, under its id; it has the id, reads the
object back as it was answered, and answers with the JSON of all of them, whose members are sorted,
in the order of the bytes of their ids.  Whatever text is submitted next succeeds exactly if it is an
object of its kind that carries the tag of the kind and has no empty required property, and no object
that was accepted before has its id; and if it is refused, nothing changes. -/
theorem creates_serve (s : σ) (hs : Holds s .empty) (steps : List (Kind × String))
    (hwhole : ∀ step ∈ steps, ∀ o, Object.parse step.1 (Bytes.ofText step.2) = .ok o → o.Whole) :
    let results := (createAll s steps).1
    let now := (createAll s steps).2
    (∃ objects, objects.Perm (accepted results) ∧ Serves now objects) ∧
      ∀ kind text,
        let next := (create kind text).run now
        (∀ o, next.result = .ok o ↔
          Submits kind text o ∧ ∀ x ∈ accepted results, x.id ≠ o.id) ∧
        (∀ o, next.result = .ok o → o.kind = kind) ∧
        ∀ e, next.result = .error e → Store.contents next.store = Store.contents now := by
  obtain ⟨m, objects, hnow, hlists, hperm⟩ := create_steps hs lists_empty steps hwhole
  rw [List.append_nil] at hperm
  refine ⟨⟨objects, hperm, hlists.serves hnow⟩, fun kind text => ⟨fun o => ?_, fun o ho => ?_,
    fun e he => ?_⟩⟩
  · rw [create_eq_ok hnow hlists]
    simp only [hperm.mem_iff]
  · have hsubmits := ((create_eq_ok hnow hlists kind text o).mp ho).1
    exact Object.kind_of_parse hsubmits.parsed
  · rw [(create_refused hnow he).contents, hnow.contents]

end

/-- An edge between two objects. -/
def edge : Object := .relationship
  { typeTag := "relationship"
    id := "relationship--1"
    specVersion := "2.1"
    created := "2024-01-01T00:00:00Z"
    modified := "2024-01-01T00:00:00Z"
    relationshipType := "indicates"
    sourceRef := "indicator--1"
    targetRef := "malware--1" }

/-- A text that submits the edge. -/
def edgeText : String :=
  "\x7b\"type\":\"relationship\",\"id\":\"relationship--1\",\"spec_version\":\"2.1\"," ++
    "\"created\":\"2024-01-01T00:00:00Z\",\"modified\":\"2024-01-01T00:00:00Z\"," ++
    "\"relationship_type\":\"indicates\",\"source_ref\":\"indicator--1\"," ++
    "\"target_ref\":\"malware--1\"\x7d"

/-- A bundle with a list of integers among its raw objects. -/
def dossier : Object := .bundle
  { typeTag := "bundle"
    id := "bundle--1"
    specVersion := "2.1"
    objects := [.array [.number (.integer 18446744073709551615), .number (.integer (-3))]] }

/-- A text that submits the bundle. -/
def dossierText : String :=
  "\x7b\"type\":\"bundle\",\"id\":\"bundle--1\",\"spec_version\":\"2.1\"," ++
    "\"objects\":[[18446744073709551615,-3]]\x7d"

theorem parse_edgeText : Object.parse .relationship (Bytes.ofText edgeText) = .ok edge := by
  have htext : Bytes.ofText edgeText = edge.encode := by decide +kernel
  rw [htext]
  exact Object.parse_encode (o := edge) trivial

theorem parse_dossierText : Object.parse .bundle (Bytes.ofText dossierText) = .ok dossier := by
  have htext : Bytes.ofText dossierText = dossier.encode := by decide +kernel
  have hfits : ∀ n ∈ [18446744073709551615, -3], Json.IntegerFits n := by
    simp only [Json.IntegerFits]
    decide
  obtain ⟨hgreatest, hnegative⟩ := List.forall_mem_cons.mp hfits
  have hsound : dossier.Sound := by
    refine List.forall_mem_singleton.mpr ⟨.array (List.forall_mem_cons.mpr ⟨?_, ?_⟩), rfl⟩
    · exact .integer hgreatest
    · exact List.forall_mem_singleton.mpr (.integer (List.forall_mem_singleton.mp hnegative))
  rw [htext]
  exact Object.parse_encode hsound

/-- The edge, and then the bundle twice. -/
def filingRun : List (Kind × String) :=
  [(.relationship, edgeText), (.bundle, dossierText), (.bundle, dossierText)]

theorem filingRun_results : (createAll MemoryStore.empty filingRun).1 =
    [.ok edge, .ok dossier, .error (.conflict (.object .bundle) "bundle--1")] := by
  have hedge : admissible .relationship edgeText = .ok edge :=
    admissible_eq_ok.mpr ⟨parse_edgeText, rfl, by decide⟩
  have hdossier : admissible .bundle dossierText = .ok dossier :=
    admissible_eq_ok.mpr ⟨parse_dossierText, rfl, by decide⟩
  simp only [filingRun, createAll, List.map_cons, List.map_nil, create, hedge, hdossier]
  rfl

/-- The bundle is accepted once, and the store answers with it before the edge, although the edge was
there first: objects are in the order of their ids. -/
theorem filingRun_serves :
    (createAll MemoryStore.empty filingRun).1 =
        [.ok edge, .ok dossier, .error (.conflict (.object .bundle) "bundle--1")] ∧
      Serves (createAll MemoryStore.empty filingRun).2 [dossier, edge] := by
  have hs : Holds MemoryStore.empty .empty := (MemoryStore.holds_iff _ _).mpr rfl
  have hedge : ∀ o, Object.parse .relationship (Bytes.ofText edgeText) = .ok o → o.Whole := by
    rintro o ho
    cases ho.symm.trans parse_edgeText
    trivial
  have hdossier : ∀ o, Object.parse .bundle (Bytes.ofText dossierText) = .ok o → o.Whole := by
    rintro o ho
    cases ho.symm.trans parse_dossierText
    refine List.forall_mem_singleton.mpr (.array (List.forall_mem_cons.mpr ⟨.integer, ?_⟩))
    exact List.forall_mem_singleton.mpr .integer
  have hwhole : ∀ step ∈ filingRun, ∀ o,
      Object.parse step.1 (Bytes.ofText step.2) = .ok o → o.Whole :=
    List.forall_mem_cons.mpr ⟨hedge, List.forall_mem_cons.mpr ⟨hdossier,
      List.forall_mem_singleton.mpr hdossier⟩⟩
  obtain ⟨⟨objects, hperm, hserves⟩, -⟩ := creates_serve MemoryStore.empty hs filingRun hwhole
  rw [filingRun_results] at hperm
  -- the ids increase, so there is only one order that the two objects can be in
  have hperm : objects.Perm [dossier, edge] := hperm.trans (.swap dossier edge [])
  obtain rfl : objects = [dossier, edge] := by
    refine hperm.eq_of_pairwise (fun a b _ _ hab hba => ?_) hserves.increasing (by decide)
    exact absurd hba (List.lt_asymm hab)
  exact ⟨filingRun_results, hserves⟩

end ThreatLedger.Stix.Catalog
