/-
  Values that are read as they stand.

  1. **Sorting** — `Value.sorted` is a value with the members of all its objects sorted by name, as a
     reader keeps them.
  2. **Reading back** — a value of integers is written compactly and read back sorted, if it is not
     nested too deep (`reads_raw`).
  3. **What is read** — a value of integers that was read is not nested too deep, and it is sorted, so
     that it is read back as it is (`gives_raw`).
-/
import ThreatLedger.Json.Raw
import ThreatLedger.Proofs.Json.Integers
import ThreatLedger.Proofs.Json.Invariants
import ThreatLedger.Store.KeyMap

namespace ThreatLedger.Json

/-! ## Sorting -/

mutual

/-- A value with the members of its objects sorted by name; of members of one name the last one
stays. -/
def Value.sorted : Value → Value
  | .null => .null
  | .bool b => .bool b
  | .number n => .number n
  | .string s => .string s
  | .array vs => .array (sortedItems vs)
  | .object ms => .object (sortedMembers [] ms)

/-- The items of a list, each of them sorted. -/
def sortedItems : List Value → List Value
  | [] => []
  | v :: vs => v.sorted :: sortedItems vs

/-- Sorted members, with further ones set one after the other. -/
def sortedMembers (acc : List (String × Value)) : List (String × Value) → List (String × Value)
  | [] => acc
  | (name, v) :: ms => sortedMembers (setMember name v.sorted acc) ms

end

/-- Every number of the value is an integer. -/
inductive Value.Whole : Value → Prop
  | null : Whole .null
  | bool {b} : Whole (.bool b)
  | integer {n} : Whole (.number (.integer n))
  | string {s} : Whole (.string s)
  | array {vs} : (∀ v ∈ vs, v.Whole) → Whole (.array vs)
  | object {ms} : (∀ m ∈ ms, m.2.Whole) → Whole (.object ms)

/-- Every number of the value is an integer that fits, and containers are nested at most `depth`
deep. -/
inductive Fits : Nat → Value → Prop
  | null {depth} : Fits depth .null
  | bool {depth b} : Fits depth (.bool b)
  | integer {depth n} : IntegerFits n → Fits depth (.number (.integer n))
  | string {depth s} : Fits depth (.string s)
  | array {depth vs} : (∀ v ∈ vs, Fits depth v) → Fits (depth + 1) (.array vs)
  | object {depth ms} : (∀ m ∈ ms, Fits depth m.2) → Fits (depth + 1) (.object ms)

/-- A value that fits holds integers only, and none of them too great. -/
theorem Fits.whole {depth : Nat} {v : Value} (h : Fits depth v) : v.Whole := by
  induction h with
  | null => exact .null
  | bool => exact .bool
  | integer _ => exact .integer
  | string => exact .string
  | array _ ih => exact .array ih
  | object _ ih => exact .object ih

/-! ## Reading back -/

/-- The reader for the items of a container, if one may open. -/
def rawItem : Nat → Option (Read Value)
  | 0 => none
  | depth + 1 => some (raw depth)

theorem raw_run (depth : Nat) {b : UInt8} (hb : isBlank b = false) (s : Bytes) :
    (raw depth).run (b :: s) = rawFrom (rawItem depth) b s := by
  cases depth with
  | zero => simp only [raw, leading, skipBlank_cons hb, rawItem]
  | succ depth => simp only [raw, leading, skipBlank_cons hb, rawItem]

theorem reads_null (depth : Nat) : Reads (raw depth) .null .null where
  starts _ := ⟨ascii 'n', _, rfl, rfl, by decide⟩
  run _ rest _ := raw_run depth rfl _

theorem reads_bool (depth : Nat) (b : Bool) : Reads (raw depth) (.bool b) (.bool b) where
  starts _ := by
    cases b
    · exact ⟨ascii 'f', _, rfl, rfl, by decide⟩
    · exact ⟨ascii 't', _, rfl, rfl, by decide⟩
  run _ rest _ := by
    cases b
    · exact raw_run depth rfl _
    · exact raw_run depth rfl _

theorem reads_string (depth : Nat) (t : String) : Reads (raw depth) (.string t) (.string t) where
  starts := (reads_text t).starts
  run _ rest _ := by
    have hquoted : quotedString t ++ rest
        = ascii '"' :: ((Bytes.ofText t).flatMap escapeByte ++ ascii '"' :: rest) := by
      simp only [quotedString, List.cons_append, List.append_assoc, List.nil_append]
    have hrun : (string.map Value.string).run
        ((Bytes.ofText t).flatMap escapeByte ++ ascii '"' :: rest) = .ok (.string t, rest) :=
      map_run (string_quoted t rest) _
    rw [Value.print, hquoted, raw_run depth rfl, ← hrun]
    rfl

/-- A byte that starts a number starts none of the literals. -/
theorem rawFrom_number {item : Option (Read Value)} {b : UInt8} (hb : startsNumber b) (s : Bytes) :
    rawFrom item b s = (number.map Value.number).run (b :: s) := by
  unfold rawFrom
  rw [if_neg (ne_of_startsNumber hb rfl), if_neg (ne_of_startsNumber hb rfl),
    if_neg (ne_of_startsNumber hb rfl), if_pos hb]

/-- An integer that fits is read as a raw value from its text, whose first byte is told from those that
start anything else. -/
theorem reads_integer (depth : Nat) {n : Int} (h : IntegerFits n) :
    Reads (raw depth) (.number (.integer n)) (.number (.integer n)) where
  starts := starts_integer n
  run _ rest hrest := by
    obtain ⟨b, s, hbytes, hb⟩ := startsNumber_integer n
    have hrun := map_run (number_integer h hrest) Value.number
    rw [hbytes, List.cons_append] at hrun
    rw [Value.print, hbytes, List.cons_append, raw_run depth (isBlank_of_startsNumber hb),
      rawFrom_number hb, hrun]

theorem forall₂_sortedItems {item : Read Value} {vs : List Value}
    (h : ∀ v ∈ vs, Reads item v v.sorted) : List.Forall₂ (Reads item) vs (sortedItems vs) := by
  induction vs with
  | nil => exact .nil
  | cons v vs ih =>
    obtain ⟨hv, hvs⟩ := List.forall_mem_cons.mp h
    exact .cons hv (ih hvs)

theorem reads_array {depth : Nat} {vs : List Value} (h : ∀ v ∈ vs, Reads (raw depth) v v.sorted) :
    Reads (raw (depth + 1)) (.array vs) (.array (sortedItems vs)) where
  starts := starts_array vs
  run d rest _ := by
    obtain ⟨s, hs, hrun⟩ := listItems_run (forall₂_sortedItems h) d rest
    rw [hs, raw_run (depth + 1) rfl]
    exact map_run hrun Value.array

/-- Reading one member more of an object as it stands. -/
def rawMember (item : Read Value) (ms : List (String × Value)) : Read (List (String × Value)) :=
  string.bind fun name => colon.bind fun _ => item.map fun v => setMember name v ms

/-- By induction on the members: each is put in its place among those before it, and the last one of a
name stays. -/
theorem takes_sortedMembers {item : Read Value} {ms : List (String × Value)}
    (h : ∀ m ∈ ms, Reads item m.2 m.2.sorted) (acc : List (String × Value)) :
    Takes (rawMember item) acc ms (sortedMembers acc ms) := by
  induction ms generalizing acc with
  | nil => exact .nil
  | cons m ms ih =>
    obtain ⟨name, v⟩ := m
    obtain ⟨hv, hms⟩ := List.forall_mem_cons.mp h
    refine .cons (fun depth rest hrest => ?_) (ih hms (setMember name v.sorted acc))
    rw [rawMember, bind_run (string_quoted name _)]
    exact colon_bind_run (map_run (hv.run depth rest hrest) _)

/-- An object is read back one container deeper than its members, which come out sorted by their
names. -/
theorem reads_object {depth : Nat} {ms : List (String × Value)}
    (h : ∀ m ∈ ms, Reads (raw depth) m.2 m.2.sorted) :
    Reads (raw (depth + 1)) (.object ms) (.object (sortedMembers [] ms)) where
  starts := starts_object ms
  run d rest _ := by
    obtain ⟨s, hs, hrun⟩ := gather_members (takes_sortedMembers h []) d rest
    rw [hs, raw_run (depth + 1) rfl]
    exact map_run hrun Value.object

/-- **Values.**  A value of integers that is not nested too deep is read back sorted. -/
theorem reads_raw {depth : Nat} {v : Value} (h : Fits depth v) : Reads (raw depth) v v.sorted := by
  induction h with
  | null => exact reads_null _
  | bool => exact reads_bool _ _
  | integer h => exact reads_integer _ h
  | string => exact reads_string _ _
  | array _ ih => exact reads_array ih
  | object _ ih => exact reads_object ih

/-- **Round trip.**  The text of a value of integers that is not nested too deep gives the value, with
the members of its objects sorted. -/
theorem Value.parse_encode {v : Value} (h : Fits greatestDepth v) :
    Value.parse v.encode = .ok v.sorted := (reads_raw h).whole

/-! ## What is read -/

/-- If the value is one of integers, then it is not nested too deep, and it is sorted. -/
def Settled (depth : Nat) (v : Value) : Prop := v.Whole → Fits depth v ∧ v.sorted = v

theorem settled_number {n : Number} (depth : Nat) (h : n.Kept) : Settled depth (.number n) := by
  cases n with
  | integer n => exact fun _ => ⟨.integer h, rfl⟩
  | real x => rintro ⟨⟩

theorem sortedItems_eq {vs : List Value} (h : ∀ v ∈ vs, v.sorted = v) : sortedItems vs = vs := by
  induction vs with
  | nil => rfl
  | cons v vs ih =>
    obtain ⟨hv, hvs⟩ := List.forall_mem_cons.mp h
    rw [sortedItems, hv, ih hvs]

theorem settled_array {depth : Nat} {vs : List Value} (h : ∀ v ∈ vs, Settled depth v) :
    Settled (depth + 1) (.array vs) := by
  rintro (_ | _ | _ | _ | hwhole | _)
  refine ⟨.array fun v hv => (h v hv (hwhole v hv)).1, ?_⟩
  rw [Value.sorted, sortedItems_eq fun v hv => (h v hv (hwhole v hv)).2]

/-- Setting a member is setting a key in a map of names, which is why a repeated name keeps its last
value. -/
theorem setMember_eq (name : String) (v : Value) (ms : List (String × Value)) :
    setMember name v ms = KeyMap.insertEntry name v ms := by
  induction ms with
  | nil => rfl
  | cons m ms ih =>
    simp only [setMember, KeyMap.insertEntry]
    split
    · rfl
    · next hge =>
      by_cases hname : name = m.1
      · rw [if_pos hname, if_neg (hname ▸ String.lt_irrefl _)]
      · have hlt : m.1 < name := KeyMap.lt_of_ne (Ne.symm hname) hge
        rw [if_neg hname, if_pos hlt, ih]

/-- A member whose name comes behind all others is set at the end. -/
theorem setMember_last {name : String} (v : Value) {ms : List (String × Value)}
    (h : ∀ m ∈ ms, m.1 < name) : setMember name v ms = ms ++ [(name, v)] := by
  induction ms with
  | nil => rfl
  | cons m ms ih =>
    obtain ⟨hm, hms⟩ := List.forall_mem_cons.mp h
    have hne : name ≠ m.1 := fun he => String.lt_irrefl _ (he ▸ hm)
    rw [setMember, if_neg (String.lt_asymm hm), if_neg hne, ih hms, List.cons_append]

/-- Members in the order of their names. -/
def InOrder (ms : List (String × Value)) : Prop := ms.Pairwise fun a b => a.1 < b.1

/-- Members that are in order are put behind the others one by one, by induction on them: none of them
is ever moved or replaced. -/
theorem sortedMembers_append {acc ms : List (String × Value)} (horder : InOrder (acc ++ ms))
    (h : ∀ m ∈ ms, m.2.sorted = m.2) : sortedMembers acc ms = acc ++ ms := by
  induction ms generalizing acc with
  | nil => rw [sortedMembers, List.append_nil]
  | cons m ms ih =>
    obtain ⟨name, v⟩ := m
    obtain ⟨hv, hms⟩ := List.forall_mem_cons.mp h
    -- the names increase, so the next member is set behind all that are there
    have hlast : ∀ m ∈ acc, m.1 < name := fun m hm =>
      (List.pairwise_append.mp horder).2.2 m hm _ List.mem_cons_self
    have hassoc : acc ++ (name, v) :: ms = acc ++ [(name, v)] ++ ms := by
      rw [List.append_assoc, List.singleton_append]
    rw [sortedMembers, hv, setMember_last v hlast, ih (hassoc ▸ horder) hms, hassoc]

/-- An object of settled values whose names are in order is settled, one container deeper. -/
theorem settled_object {depth : Nat} {ms : List (String × Value)} (horder : InOrder ms)
    (h : ∀ m ∈ ms, Settled depth m.2) : Settled (depth + 1) (.object ms) := by
  rintro (_ | _ | _ | _ | _ | hwhole)
  refine ⟨.object fun m hm => (h m hm (hwhole m hm)).1, ?_⟩
  have hmembers : sortedMembers [] ms = [] ++ ms :=
    sortedMembers_append horder fun m hm => (h m hm (hwhole m hm)).2
  rw [Value.sorted, hmembers, List.nil_append]

/-- The members of an object are settled, and stay so when one more is read. -/
theorem gives_rawMember {item : Read Value} {depth : Nat} (hitem : Gives item (Settled depth))
    {ms : List (String × Value)} (h : InOrder ms ∧ ∀ m ∈ ms, Settled depth m.2) :
    Gives (rawMember item ms) fun ms => InOrder ms ∧ ∀ m ∈ ms, Settled depth m.2 := by
  refine gives_bind fun name => gives_bind fun _ => gives_map hitem fun v hv => ?_
  rw [setMember_eq]
  refine ⟨KeyMap.insertEntry_sorted name v h.1, fun m hm => ?_⟩
  rcases KeyMap.mem_insertEntry hm with rfl | hm
  · exact hv
  · exact h.2 m hm

/-- What is read of an object has its names in order, since each member is put in its place. -/
theorem gives_rawMembers {item : Read Value} {depth : Nat} (hitem : Gives item (Settled depth)) :
    Gives (rawMembers item) fun ms => InOrder ms ∧ ∀ m ∈ ms, Settled depth m.2 :=
  gives_gather ⟨List.Pairwise.nil, fun _ hm => absurd hm List.not_mem_nil⟩
    fun _ => gives_rawMember hitem

theorem literalValue_eq {v w : Value} {ls s r : Bytes} (h : literalValue v ls s = .ok (w, r)) :
    w = v := by
  unfold literalValue at h
  split at h <;> cases h
  rfl

/-- **Settled.**  What is read, if it is a value of integers, is not nested too deep and is in order.
The cases are those of the first byte; only a container looks at its items. -/
theorem settled_of_rawFrom {item : Option (Read Value)} {depth : Nat}
    (hitem : ∀ p, item = some p → ∃ inner, depth = inner + 1 ∧ Gives p (Settled inner)) {b : UInt8}
    {s r : Bytes} {v : Value} (h : rawFrom item b s = .ok (v, r)) : Settled depth v := by
  -- one case for each byte that starts a value; only the last two of them go one container deeper
  unfold rawFrom at h
  split_ifs at h
  · exact literalValue_eq h ▸ fun _ => ⟨.null, rfl⟩
  · exact literalValue_eq h ▸ fun _ => ⟨.bool, rfl⟩
  · exact literalValue_eq h ▸ fun _ => ⟨.bool, rfl⟩
  · have hnumber : Gives (number.map Value.number) (Settled depth) :=
      gives_map (fun _ _ _ h => number_kept h) fun n hn => settled_number depth hn
    exact hnumber _ _ _ h
  · have hstring : Gives (string.map Value.string) (Settled depth) :=
      gives_map (gives_anything _) fun t _ _ => ⟨.string, rfl⟩
    exact hstring _ _ _ h
  · split at h
    · cases h
    · obtain ⟨inner, rfl, hp⟩ := hitem _ rfl
      exact gives_map (gives_listItems hp) (fun vs => settled_array) _ _ _ h
  · split at h
    · cases h
    · obtain ⟨inner, rfl, hp⟩ := hitem _ rfl
      exact gives_map (gives_rawMembers hp) (fun ms hms => settled_object hms.1 hms.2) _ _ _ h

/-- **What is read.**  A value of integers that was read as it stands is sorted and not nested too
deep. -/
theorem gives_raw (depth : Nat) : Gives (raw depth) (Settled depth) := by
  induction depth with
  | zero =>
    refine gives_leading (fun _ => rfl) fun b s v r => settled_of_rawFrom ?_
    rintro p ⟨⟩
  | succ depth ih =>
    refine gives_leading (fun _ => rfl) fun b s v r => settled_of_rawFrom ?_
    rintro p ⟨⟩
    exact ⟨depth, rfl, ih⟩

end ThreatLedger.Json
