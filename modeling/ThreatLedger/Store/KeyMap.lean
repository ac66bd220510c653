/-
  Finite maps from texts, in the order of their keys.

  1. **Data** — the entries in strictly increasing order of their keys; the order is part of the type, so
     two maps with the same entries are the same map (`ext_get?`).  Texts are compared by code points,
     which is the order of their UTF-8 bytes.
  2. **Operations** — `insert` and `erase`, each with one lemma that says what `get?` finds afterwards.
  3. **Ranges** — `between?` answers with the entries between two bounds, and with nothing at all where the
     bounds are the wrong way round: such a range may not be asked for.
-/
namespace ThreatLedger

/-- A map from texts, its entries in the order of their keys. -/
structure KeyMap (α : Type) where
  entries : List (String × α)
  sorted : entries.Pairwise fun a b => a.1 < b.1

namespace KeyMap

variable {α : Type}

/-- The map without entries. -/
def empty : KeyMap α := ⟨[], List.Pairwise.nil⟩

instance : Inhabited (KeyMap α) := ⟨empty⟩

/-- The value of a key. -/
def get? (m : KeyMap α) (k : String) : Option α := (m.entries.find? (·.1 = k)).map (·.2)

/-- The keys in order. -/
def keys (m : KeyMap α) : List String := m.entries.map (·.1)

/-- How many entries there are. -/
def size (m : KeyMap α) : Nat := m.entries.length

/-! ## Setting a key -/

/-- Entries with a key set. -/
def insertEntry (k : String) (v : α) : List (String × α) → List (String × α)
  | [] => [(k, v)]
  | e :: es =>
    if k < e.1 then (k, v) :: e :: es
    else if e.1 < k then e :: insertEntry k v es
    else (k, v) :: es

/-- Two keys neither of which comes first are the same. -/
theorem eq_of_not_lt {a b : String} (h : ¬a < b) (h' : ¬b < a) : a = b :=
  String.le_antisymm (String.not_lt.mp h') (String.not_lt.mp h)

/-- Of two different keys, one comes first. -/
theorem lt_of_ne {a b : String} (hne : a ≠ b) (h : ¬b < a) : a < b := by
  by_cases hlt : a < b
  · exact hlt
  · exact absurd (eq_of_not_lt hlt h) hne

/-- What is among the entries after one is put there is that one, or was there before.  By induction on
the entries, as all that is said of `insertEntry`. -/
theorem mem_insertEntry {k : String} {v : α} {e : String × α} {es : List (String × α)}
    (h : e ∈ insertEntry k v es) : e = (k, v) ∨ e ∈ es := by
  induction es with
  | nil => exact .inl (List.mem_singleton.mp h)
  | cons a as ih =>
    unfold insertEntry at h
    split at h
    · rcases List.mem_cons.mp h with h | h
      · exact .inl h
      · exact .inr h
    · split at h
      · rcases List.mem_cons.mp h with h | h
        · exact .inr (h ▸ List.mem_cons_self ..)
        · rcases ih h with h | h
          · exact .inl h
          · exact .inr (List.mem_cons_of_mem _ h)
      · rcases List.mem_cons.mp h with h | h
        · exact .inl h
        · exact .inr (List.mem_cons_of_mem _ h)

/-- Entries stay in the strict order of their keys: the new one goes before the first greater key, or in
the place of its own. -/
theorem insertEntry_sorted (k : String) (v : α) {es : List (String × α)}
    (h : es.Pairwise fun a b => a.1 < b.1) :
    (insertEntry k v es).Pairwise fun a b => a.1 < b.1 := by
  induction es with
  | nil => exact List.pairwise_singleton _ _
  | cons a as ih =>
    have ⟨ha, has⟩ := List.pairwise_cons.mp h
    unfold insertEntry
    split
    · next hk =>
      refine List.pairwise_cons.mpr ⟨fun e he => ?_, h⟩
      rcases List.mem_cons.mp he with he | he
      · exact he ▸ hk
      · exact String.lt_trans hk (ha e he)
    · split
      · next hk =>
        refine List.pairwise_cons.mpr ⟨fun e he => ?_, ih has⟩
        rcases mem_insertEntry he with he | he
        · exact he ▸ hk
        · exact ha e he
      · next hk hk' =>
        have hk := eq_of_not_lt hk hk'
        exact List.pairwise_cons.mpr ⟨fun e he => hk ▸ ha e he, has⟩

/-- Sets a key. -/
def insert (m : KeyMap α) (k : String) (v : α) : KeyMap α :=
  ⟨insertEntry k v m.entries, insertEntry_sorted k v m.sorted⟩

/-- **Insertion.**  After a key is inserted it is found with its value, and every other key as before.
By induction on the entries, along the comparisons of `insertEntry`; that they are sorted is not needed
for this. -/
theorem get?_insert (m : KeyMap α) (k : String) (v : α) (k' : String) :
    (m.insert k v).get? k' = if k' = k then some v else m.get? k' := by
  obtain ⟨es, hs⟩ := m
  show ((insertEntry k v es).find? (·.1 = k')).map (·.2)
    = if k' = k then some v else (es.find? (·.1 = k')).map (·.2)
  clear hs
  induction es with
  | nil => by_cases h : k' = k <;> simp [insertEntry, h, eq_comm]
  | cons a as ih =>
    unfold insertEntry
    split
    · by_cases h : k' = k <;> simp [h, eq_comm (a := k)]
    · split
      · next hk =>
        by_cases h' : a.1 = k'
        · have : k' ≠ k := fun e => String.lt_irrefl k (by rw [← e] at hk ⊢; exact h' ▸ hk)
          simp [h', this]
        · simp only [List.find?_cons, h', decide_false]
          exact ih
      · next hk hk' =>
        have hk := eq_of_not_lt hk hk'
        by_cases h : k' = k <;> simp [h, ← hk, eq_comm (a := k)]

/-! ## Removing a key -/

/-- Removes a key, if it is there. -/
def erase (m : KeyMap α) (k : String) : KeyMap α :=
  ⟨m.entries.filter (·.1 ≠ k), m.sorted.filter _⟩

/-- **Removal.**  After a key is erased it is not found, and every other key is found as before. -/
theorem get?_erase (m : KeyMap α) (k k' : String) :
    (m.erase k).get? k' = if k' = k then none else m.get? k' := by
  obtain ⟨es, hs⟩ := m
  show ((es.filter (·.1 ≠ k)).find? (·.1 = k')).map (·.2)
    = if k' = k then none else (es.find? (·.1 = k')).map (·.2)
  clear hs
  induction es with
  | nil => simp
  | cons a as ih =>
    by_cases ha : a.1 = k
    · by_cases h : k' = k
      · simp_all
      · have : ¬k = k' := Ne.symm h
        simp_all
    · by_cases h : a.1 = k'
      · have : k' ≠ k := h ▸ ha
        simp_all
      · simp_all

/-! ## Ranges -/

/-- The entries from a lower bound on and before an upper one, which is left open where it is empty.  There
is no such range, not even an empty one, if the bounds are the wrong way round. -/
def between? (m : KeyMap α) (lower upper : String) : Option (List (String × α)) :=
  if upper ≠ "" ∧ upper < lower then none
  else some ((m.entries.dropWhile (·.1 < lower)).takeWhile fun e => upper = "" || e.1 < upper)

/-! ## A map is what it finds -/

/-- An entry is found under its key, and what is found is an entry: no two of them have one key. -/
theorem get?_eq_some_iff {m : KeyMap α} {k : String} {v : α} :
    m.get? k = some v ↔ (k, v) ∈ m.entries := by
  obtain ⟨es, hs⟩ := m
  show (es.find? (·.1 = k)).map (·.2) = _ ↔ (k, v) ∈ es
  induction es with
  | nil => simp
  | cons a as ih =>
    have ⟨ha, has⟩ := List.pairwise_cons.mp hs
    by_cases h : a.1 = k
    · constructor
      · intro hf
        simp [h] at hf
        exact List.mem_cons.mpr (.inl (Prod.ext h.symm hf.symm))
      · intro hm
        rcases List.mem_cons.mp hm with hm | hm
        · simp [← hm]
        · exact absurd (ha _ hm) (h ▸ String.lt_irrefl _)
    · have hne : (k, v) ≠ a := fun e => h (e ▸ rfl)
      simp [h, ih has, hne]

/-- Two maps that find the same are the same, since their entries are sorted and no key is there
twice. -/
theorem ext_get? {m n : KeyMap α} (h : ∀ k, m.get? k = n.get? k) : m = n := by
  have mem : ∀ e, e ∈ m.entries ↔ e ∈ n.entries := fun (k, v) => by
    rw [← get?_eq_some_iff, ← get?_eq_some_iff, h]
  obtain ⟨xs, hx⟩ := m
  obtain ⟨ys, hy⟩ := n
  simp only at mem
  clear h
  congr
  induction xs generalizing ys with
  | nil =>
    cases ys with
    | nil => rfl
    | cons y ys => exact absurd ((mem y).mpr (List.mem_cons_self ..)) List.not_mem_nil
  | cons x xs ih =>
    have ⟨hx, hxs⟩ := List.pairwise_cons.mp hx
    cases ys with
    | nil => exact absurd ((mem x).mp (List.mem_cons_self ..)) List.not_mem_nil
    | cons y ys =>
      have ⟨hy, hys⟩ := List.pairwise_cons.mp hy
      have hxy : x = y := by
        rcases List.mem_cons.mp ((mem x).mp (List.mem_cons_self ..)) with h | h
        · exact h
        · rcases List.mem_cons.mp ((mem y).mpr (List.mem_cons_self ..)) with h' | h'
          · exact h'.symm
          · exact absurd (String.lt_trans (hy x h) (hx y h')) (String.lt_irrefl _)
      subst hxy
      congr
      refine ih hxs ys hys fun e => ?_
      have he := mem e
      simp only [List.mem_cons] at he
      constructor
      · intro h
        rcases he.mp (.inr h) with h' | h'
        · exact absurd (hx e h) (h' ▸ String.lt_irrefl _)
        · exact h'
      · intro h
        rcases he.mpr (.inr h) with h' | h'
        · exact absurd (hy e h) (h' ▸ String.lt_irrefl _)
        · exact h'

end KeyMap
end ThreatLedger
