/-
  What the catalog answers, and what it makes of the entries.

  1. **Answers** — on the entries of a store, each operation as a result: `created`, `found`,
     `valuesOf`.
  2. **Effects** — each operation has that effect on the reference store.  Going through all entries
     page by page is going through them once (`allFrom_finds`): the entries onward from the bookmark
     of a page are the ones that the page left, and there are fewer of them.
-/
import ThreatLedger.Proofs.Results
import ThreatLedger.Proofs.Stix.Catalog
import ThreatLedger.Proofs.Store.Effects

open ThreatLedger.Action

namespace ThreatLedger.Stix.Catalog

/-! ## Answers -/

/-- The entries with an object under its id, which has to be free. -/
def placed (m : KeyMap Bytes) (kind : Kind) (o : Object) : Except LedgerError (KeyMap Bytes) :=
  if (m.get? o.id).isSome then .error (.conflict (.object kind) o.id)
  else .ok (m.insert o.id o.encode)

/-- The object that a text submits, and the entries with it. -/
def created (m : KeyMap Bytes) (kind : Kind) (text : String) :
    Except LedgerError (Object × KeyMap Bytes) := do
  let o ← admissible kind text
  let m' ← placed m kind o
  .ok (o, m')

/-- The object of a kind under an id. -/
def found (m : KeyMap Bytes) (kind : Kind) (id : String) : Except LedgerError Object :=
  match m.get? id with
  | none => .error (.notFound (.object kind) id)
  | some value => (Object.parse kind value).mapError (.corrupt id)

/-- The value of an entry. -/
def valueOf (e : Entry) : Except LedgerError Json.Value :=
  (Json.Value.parse e.2).mapError (.corrupt e.1)

/-- The values of all entries. -/
def valuesOf (es : List Entry) : Except LedgerError (List Json.Value) := es.mapM valueOf

theorem valuesOf_cons (e : Entry) (es : List Entry) :
    valuesOf (e :: es) = valueOf e >>= fun value => valuesOf es >>= fun values =>
      .ok (value :: values) := List.mapM_cons

/-- Entries are read from left to right, so that a page and what is behind it can be read one after the
other. -/
theorem valuesOf_append (es fs : List Entry) :
    valuesOf (es ++ fs) = valuesOf es >>= fun values => valuesOf fs >>= fun more =>
      .ok (values ++ more) := List.mapM_append

/-! ## Effects -/

section

variable {saved : Option (KeyMap Bytes)} {m : KeyMap Bytes}

theorem holds_finds (id : String) : Finds saved (holds id) m (.ok (m.get? id).isSome) :=
  runs_next (finds_get id) (finds_pure _)

/-- An object is stored as `placed` has it: under its id if that is free, and otherwise there is a
conflict. -/
theorem storeNew_makes (kind : Kind) (o : Object) :
    Makes saved (storeNew kind o) m (placed m kind o) := by
  refine runs_next (holds_finds o.id) ?_
  unfold placed
  cases (m.get? o.id).isSome with
  | true => exact runs_stop (finds_fail _) _
  | false => exact runs_next (makes_put _ _) (finds_report _)

/-- The entries are those with the object, or those from before if it is refused: for its text, or
because its id is taken. -/
theorem create_runs (kind : Kind) (text : String) :
    Runs none (create kind text) m ((created m kind text).map (·.1))
      (((created m kind text).map (·.2)).toOption.getD m) := by
  unfold create created
  cases admissible kind text with
  | error e => exact runs_stop (finds_ofExcept _) _
  | ok o =>
    have hstore : Makes none (atomically (storeNew kind o)) m (placed m kind o) :=
      makes_atomically (storeNew_makes kind o)
    refine runs_next (finds_ofExcept (.ok o)) ?_
    show Runs none _ m ((placed m kind o >>= fun m' => .ok (o, m')).map (·.1))
      (((placed m kind o >>= fun m' => .ok (o, m')).map (·.2)).toOption.getD m)
    -- what is left is to tell apart whether the id was free
    generalize placed m kind o = r at hstore ⊢
    cases r with
    | error e => exact runs_stop hstore _
    | ok m' => exact runs_next hstore (finds_pure o)

/-- An object is read as `found` has it, by the properties of the kind that is asked for, whatever kind
was stored. -/
theorem read_finds (kind : Kind) (id : String) :
    Finds saved (read kind id) m (found m kind id) := by
  refine runs_next (finds_get id) ?_
  unfold found
  cases m.get? id with
  | none => exact finds_fail _
  | some value => exact finds_ofExcept _

/-- By induction on the entries of a page: each is taken out and read, up to the first that cannot
be. -/
theorem decodeEntries_finds (es : List Entry) :
    Finds saved (decodeEntries es) m (valuesOf es) := by
  induction es with
  | nil => exact finds_pure []
  | cons e es ih =>
    rw [valuesOf_cons]
    refine runs_next (finds_entry e) ?_
    exact finds_bind (finds_ofExcept _) fun value => finds_bind ih fun values => finds_pure _

/-- The page that goes through all entries from a bookmark, or the first hundred of them. -/
theorem page_finds (bookmark : String) :
    Finds saved ((Store.scan (.all pageSize bookmark)).lift : Action _ LedgerError _) m
      (.ok ⟨(m.onward bookmark).take 100, m.keyBehind bookmark 100⟩) := by
  have hlimit : (Scan.all pageSize bookmark).limit = .ok 100 := rfl
  rw [KeyMap.keyBehind, ← m.page_all pageSize bookmark 100]
  exact finds_scan hlimit

/-- Where one page takes all entries, all values are found, and there is no bookmark to go on from. -/
theorem allFrom_last (more : Nat) {bookmark : String} (hfew : (m.onward bookmark).length ≤ 100)
    (hbehind : m.keyBehind bookmark 100 = "") :
    Finds saved (allFrom more bookmark) m (valuesOf (m.onward bookmark)) := by
  unfold allFrom
  refine runs_next (page_finds bookmark) ?_
  rw [List.take_of_length_le hfew, ← bind_pure (valuesOf (m.onward bookmark))]
  refine finds_bind (decodeEntries_finds _) fun values => ?_
  simp only [hbehind, if_true]
  exact finds_pure values

/-- From a bookmark on, all values are found, if there may be as many pages as there are entries. -/
theorem allFrom_finds {more : Nat} {bookmark : String}
    (hmore : (m.onward bookmark).length ≤ more) :
    Finds saved (allFrom more bookmark) m (valuesOf (m.onward bookmark)) := by
  have hpos : 0 < 100 := by decide
  induction more generalizing bookmark with
  | zero =>
    rcases m.keyBehind_onward bookmark hpos with ⟨hfew, hbehind⟩ | ⟨hmany, -⟩
    · exact allFrom_last 0 hfew hbehind
    · omega
  | succ more ih =>
    rcases m.keyBehind_onward bookmark hpos with ⟨hfew, hbehind⟩ | ⟨hmany, hlt⟩
    · exact allFrom_last _ hfew hbehind
    · have hne : m.keyBehind bookmark 100 ≠ "" := fun h => List.not_lt_nil _ (h ▸ hlt)
      -- onward from the key behind the page is what the page left
      have hrest : m.onward (m.keyBehind bookmark 100) = (m.onward bookmark).drop 100 := by
        rw [m.keyBehind_eq bookmark hmany, m.onward_key bookmark hmany]
      have hless : (m.onward (m.keyBehind bookmark 100)).length ≤ more := by
        rw [hrest, List.length_drop]
        omega
      have hvalues : valuesOf (m.onward bookmark) =
          valuesOf ((m.onward bookmark).take 100) >>= fun values =>
            valuesOf (m.onward (m.keyBehind bookmark 100)) >>= fun rest =>
              .ok (values ++ rest) := by
        rw [hrest, ← valuesOf_append, List.take_append_drop]
      unfold allFrom
      rw [hvalues]
      refine runs_next (page_finds bookmark) ?_
      refine finds_bind (decodeEntries_finds _) fun values => ?_
      simp only [hne, if_false]
      exact finds_bind (ih hless) fun rest => finds_pure _

/-- **All objects.**  The values of all entries are found, however many pages they take.  Each page but
the last has a hundred entries, so there are no more pages than keys and one. -/
theorem all_finds : Finds saved all m (valuesOf m.entries) := by
  have hmore : (m.onward "").length ≤ m.entries.length := Nat.le_of_eq (congrArg _ m.onward_empty)
  have hfinds : Finds saved (allFrom m.entries.length "") m (valuesOf (m.onward "")) :=
    allFrom_finds hmore
  rw [m.onward_empty] at hfinds
  exact fun space => hfinds space

end

end ThreatLedger.Stix.Catalog
