/-
  A structure that is read from the object of another one.

  1. **Members** — a member that the structure does not know is passed over, if its value can be passed.
  2. **Front** — what the members at the front have set is not set again: their names have occurred.  So
     what only they decide holds of whatever is read, if anything is (`parse_keeps_front`).
  3. **Others** — a structure that shares its first properties with another one is read from its object
     with those set, and all others as they are when they are absent (`parse_other`).
-/
import ThreatLedger.Proofs.Json.Passing

namespace ThreatLedger.Json

/-! ## Members -/

/-- Members that are taken one after the other are taken together. -/
theorem Takes.append {α : Type} {item : α → Read α} {x y z : α} {ms ns : List (String × Value)}
    (hms : Takes item x ms y) (hns : Takes item y ns z) : Takes item x (ms ++ ns) z := by
  induction hms with
  | nil => exact hns
  | cons hrun _ ih => exact .cons hrun (ih hns)

section

variable {ρ τ : Type} {schema : Schema ρ}

/-- Members of other names leave the structure as it is: each is passed over, by induction on them. -/
theorem takes_unknown {ms : List (String × Value)}
    (hunknown : ∀ m ∈ ms, schema.properties.find? (·.name = m.1) = none)
    (hpass : ∀ m ∈ ms, ∀ depth, Passes (m.2.print compact depth)) (p : Partial ρ) :
    Takes schema.member p ms p := by
  induction ms with
  | nil => exact .nil
  | cons m ms ih =>
    obtain ⟨name, v⟩ := m
    obtain ⟨hname, hnames⟩ := List.forall_mem_cons.mp hunknown
    obtain ⟨hv, hvs⟩ := List.forall_mem_cons.mp hpass
    refine .cons (fun depth rest hrest => ?_) (ih hnames hvs)
    unfold Schema.member
    rw [bind_run (string_quoted name _)]
    simp only [hname]
    exact colon_bind_run (map_run ((hv depth).passValue_run blank_nil hrest) _)

/-! ## Front -/

/-- Printing goes member by member, so that it can be cut between any two of them. -/
theorem printMembers_append (front ms : List (String × Value)) (depth : Nat) (s : Bytes) :
    printMembers compact depth (front ++ ms) ++ s
      = printMembers compact depth front ++ (printMembers compact depth ms ++ s) := by
  induction front with
  | nil => rfl
  | cons m front ih =>
    obtain ⟨name, v⟩ := m
    rw [List.cons_append, printMembers_cons, printMembers_cons, ih]

/-- Behind the members at the front, what was made of them is what the others are read into. -/
theorem parse_front {front ms : List (String × Value)} {p : Partial ρ} {x : ρ}
    (hfront : Takes schema.member ⟨schema.empty, []⟩ front p)
    (h : schema.parse (Value.object (front ++ ms)).encode = .ok x) :
    ∃ q s r, (Reader.loop (gatherStep .object schema.member) (false, p)).run s = .ok (q, r) ∧
      schema.finish q = .ok x := by
  obtain ⟨s, hs, hrun⟩ := gather_front schema.member ⟨schema.empty, []⟩ (front ++ ms) 0 []
  rw [printMembers_append, loopFrom_members hfront 1
    (detached_members ms 1 (detached_close .object []))] at hrun
  rw [List.append_nil] at hs
  have hread : schema.read.run (Value.object (front ++ ms)).encode = schema.fromObject.run s := by
    show schema.read.run ((Value.object (front ++ ms)).print compact 0) = _
    rw [hs]
    rfl
  unfold Schema.parse whole at h
  rw [hread] at h
  simp only [Schema.fromObject, hrun] at h
  -- the loop ends with what is read of the members, and nothing required is missing from it
  cases hloop : Reader.loopFrom (gatherStep .object schema.member) (false, p)
      (printMembers compact 1 ms ++ Frame.object.close :: []) with
  | error e =>
    rw [hloop] at h
    cases h
  | ok read =>
    obtain ⟨q, r⟩ := read
    rw [hloop] at h
    cases hfinish : schema.finish q with
    | error e =>
      simp only [hfinish, Except.map] at h
      cases h
    | ok y =>
      simp only [hfinish, Except.map] at h
      split at h
      · cases h
        exact ⟨q, _, r, hloop, hfinish⟩
      · cases h

/-- What is read of an object is what its members have set, if none is missing. -/
theorem finish_value {q : Partial ρ} {x : ρ} (h : schema.finish q = .ok x) : x = q.value := by
  unfold Schema.finish at h
  split at h <;> cases h
  rfl

/-- A property whose name has occurred does not change the structure again. -/
theorem gives_member_seen {fs gs : List (Property ρ)} (hproperties : schema.properties = fs ++ gs)
    {Q : ρ → Prop} (hkeeps : ∀ g ∈ gs, Gives g.read fun change => ∀ x, Q x → Q (change x))
    (p : Partial ρ) (hp : (∀ f ∈ fs, f.name ∈ p.seen) ∧ Q p.value) :
    Gives (schema.member p) fun q => (∀ f ∈ fs, f.name ∈ q.seen) ∧ Q q.value := by
  refine gives_bind fun name => ?_
  split
  · exact gives_bind fun _ => gives_map (gives_anything _) fun _ _ => hp
  · next f hfind =>
    split
    · exact gives_fail _
    · next hnew =>
      have hname : f.name = name := by simpa using List.find?_some hfind
      -- a property at the front has been seen, and so it would have been refused
      have hmem : f ∈ gs := by
        have hf := List.mem_of_find?_eq_some hfind
        rw [hproperties] at hf
        exact (List.mem_append.mp hf).resolve_left fun hf => hnew (hname ▸ hp.1 f hf)
      refine gives_bind fun _ => gives_map (hkeeps f hmem) fun change hchange => ⟨?_, ?_⟩
      · exact fun f hf => List.mem_cons_of_mem _ (hp.1 f hf)
      · exact hchange p.value hp.2

/-- **Front.**  What the properties at the front have set is not changed by the members behind them,
whatever these are. -/
theorem parse_keeps_front {fs gs : List (Property ρ)} (hproperties : schema.properties = fs ++ gs)
    (hnodup : (schema.properties.map (·.name)).Nodup) {r : ρ} {changes : List (ρ → ρ)}
    (hback : ReadsBack r fs changes) {Q : ρ → Prop}
    (hQ : Q (changes.foldl (fun x change => change x) schema.empty))
    (hkeeps : ∀ g ∈ gs, Gives g.read fun change => ∀ x, Q x → Q (change x))
    {ms : List (String × Value)} {x : ρ}
    (h : schema.parse (Value.object (membersOf r fs ++ ms)).encode = .ok x) : Q x := by
  have hfind : ∀ f ∈ fs, schema.properties.find? (·.name = f.name) = some f := by
    intro f hf
    exact find?_name hnodup (hproperties ▸ List.mem_append_left gs hf)
  have hnodup : (fs.map (·.name)).Nodup := by
    rw [hproperties, List.map_append] at hnodup
    exact (List.nodup_append.mp hnodup).1
  have htakes := takes_members hback hfind hnodup ⟨schema.empty, []⟩ fun _ _ => List.not_mem_nil
  obtain ⟨q, s, r, hrun, hfinish⟩ := parse_front htakes h
  have hseen : ∀ f ∈ fs, f.name ∈ (fs.map (·.name)).reverse ++ [] := fun f hf =>
    List.mem_append_left _ (List.mem_reverse.mpr (List.mem_map_of_mem hf))
  -- what is behind the front goes on from there, with the names of the front among those seen
  have hq := gives_gatherStep (gives_member_seen hproperties hkeeps) (false, _) ⟨hseen, hQ⟩ s q r
    hrun
  rw [finish_value hfinish]
  exact hq.2

/-! ## Others -/

/-- The first properties of a record are read back by the first changes. -/
theorem ReadsBack.take {r : ρ} {fs : List (Property ρ)} {changes : List (ρ → ρ)}
    (h : ReadsBack r fs changes) (n : Nat) : ReadsBack r (fs.take n) (changes.take n) := by
  induction h generalizing n with
  | nil => cases n <;> exact .nil
  | cons hf _ ih =>
    cases n with
    | zero => exact .nil
    | succ n => exact .cons hf (ih n)

/-- What is read back of some of the first properties is read back of fewer of them. -/
theorem ReadsBack.fewer {r : ρ} {fs : List (Property ρ)} {changes : List (ρ → ρ)} {n m : Nat}
    (h : ReadsBack r (fs.take m) changes) (hn : n ≤ m) : ReadsBack r (fs.take n) (changes.take n) := by
  have hfewer : fs.take n = (fs.take m).take n := by rw [List.take_take, Nat.min_eq_left hn]
  rw [hfewer]
  exact h.take n

/-- **Others.**  A structure that shares its first properties with another one, knows none of the others
and requires none is read from the object of the other one. -/
theorem parse_other (other : Schema τ) (o : τ) {r : ρ} (n : Nat) {changes : List (ρ → ρ)}
    (hback : ReadsBack r (schema.properties.take n) changes)
    (hshared : membersOf r (schema.properties.take n) = membersOf o (other.properties.take n))
    (hnodup : (schema.properties.map (·.name)).Nodup)
    (hoptional : ∀ f ∈ schema.properties, f.required = false)
    (hunknown : ∀ g ∈ other.properties.drop n, ∀ f ∈ schema.properties, f.name ≠ g.name)
    (hwhole : (other.value o).Whole) :
    schema.parse (other.encode o)
      = .ok (changes.foldl (fun x change => change x) schema.empty) := by
  have hvalues : ∀ g ∈ other.properties, (g.value o).Whole := by
    obtain ⟨⟩ | ⟨⟩ | ⟨⟩ | ⟨⟩ | ⟨⟩ | hmembers := hwhole
    exact fun g hg => hmembers _ (List.mem_map_of_mem hg)
  -- the shared properties are read, each into the change that it makes
  have hfront : Takes schema.member ⟨schema.empty, []⟩ (membersOf r (schema.properties.take n)) _ :=
    takes_members hback (fun f hf => find?_name hnodup (List.mem_of_mem_take hf))
      (hnodup.sublist ((List.take_sublist n _).map _)) ⟨schema.empty, []⟩ fun _ _ => List.not_mem_nil
  -- every member behind them has a name that the reader does not know
  have hrest : ∀ p, Takes schema.member p (membersOf o (other.properties.drop n)) p := by
    refine takes_unknown (List.forall_mem_map.mpr fun g hg => ?_)
      (List.forall_mem_map.mpr fun g hg => ?_)
    · refine List.find?_eq_none.mpr fun f hf => ?_
      simpa using hunknown g hg f hf
    · exact passes_print (hvalues g (List.mem_of_mem_drop hg))
  have hmembers : Value.object (membersOf r (schema.properties.take n)
      ++ membersOf o (other.properties.drop n)) = other.value o := by
    rw [hshared, membersOf, membersOf, ← List.map_append, List.take_append_drop]
    rfl
  have hreads := reads_members (hfront.append (hrest _)) (finish_optional hoptional _)
  rw [hmembers] at hreads
  exact hreads.whole

end

end ThreatLedger.Json
