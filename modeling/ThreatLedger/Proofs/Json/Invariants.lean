/-
  What a reader gives, whatever the text is.

  1. **Readers** — `Gives p P` says that every value which `p` gives has the property `P`.  A loop
     gives what its invariant says, by induction on its turns.
  2. **Containers** — a list of items that have a property each, and a structure whose properties
     keep an invariant when they change it.
-/
import ThreatLedger.Json.Schema
import ThreatLedger.Proofs.Results

namespace ThreatLedger.Json

/-! ## Readers -/

section

variable {α β : Type} {P : α → Prop} {Q : β → Prop}

/-- Every value that the reader gives has the property. -/
def Gives (p : Read α) (P : α → Prop) : Prop := ∀ s a r, p.run s = .ok (a, r) → P a

theorem gives_anything (p : Read α) : Gives p fun _ => True := fun _ _ _ _ => trivial

theorem gives_fail (e : Error) : Gives (Reader.fail e) P := by
  rintro s a r ⟨⟩

/-- A property of what is read carries over to what is made of it. -/
theorem gives_map {p : Read α} {f : α → β} (hp : Gives p P) (hf : ∀ a, P a → Q (f a)) :
    Gives (p.map f) Q := by
  intro s b r h
  simp only [Reader.map] at h
  split at h
  · cases h
  · next hrun =>
    cases h
    exact hf _ (hp _ _ _ hrun)

/-- In a sequence only what is read last is given; what was read before may be anything. -/
theorem gives_bind {p : Read α} {f : α → Read β} (hf : ∀ a, Gives (f a) Q) :
    Gives (p.bind f) Q := by
  intro s b r h
  simp only [Reader.bind] at h
  split at h
  · cases h
  · exact hf _ _ _ _ h

/-- A reader that reads as the first byte says gives what it gives for each of them. -/
theorem gives_leading {p : Read α} {f : UInt8 → Bytes → Except Error (α × Bytes)}
    (hp : ∀ s, p.run s = match skipBlank s with
      | [] => .error (.unfinished .value)
      | b :: r => f b r)
    (hf : ∀ b s a r, f b s = .ok (a, r) → P a) : Gives p P := by
  intro s a r h
  rw [hp] at h
  split at h
  · cases h
  · exact hf _ _ _ _ h

/-- **Loops.**  What every turn keeps, and the last one turns into a result. -/
theorem gives_loop {step : α → Read (α ⊕ β)} {x : α} (hx : P x)
    (hstep : ∀ x, P x → Gives (step x) (Sum.elim P Q)) : Gives (Reader.loop step x) Q := by
  intro s b r h
  have hloop : Reader.loopFrom step x s = .ok (b, r) := h
  clear h
  induction x, s using Reader.loopFrom.induct step with
  | case1 x s e he =>
    rw [Reader.loopFrom_eq, he] at hloop
    cases hloop
  | case2 x s b' r' he =>
    rw [Reader.loopFrom_eq, he] at hloop
    cases hloop
    exact hstep x hx _ _ _ he
  | case3 x s y r' he hlt ih =>
    rw [Reader.loopFrom_eq, he] at hloop
    exact ih (hstep x hx _ _ _ he) hloop

end

/-! ## Containers -/

section

variable {α : Type} {P : α → Prop}

/-- By induction on the turns through a container: each item keeps what holds of what was gathered so
far. -/
theorem gives_gatherStep {f : Frame} {item : α → Read α} (hitem : ∀ x, P x → Gives (item x) P)
    (state : Bool × α) (hstate : P state.2) : Gives (Reader.loop (gatherStep f item) state) P := by
  refine gives_loop (P := fun state => P state.2) hstate fun state hstate s a r h => ?_
  simp only [gatherStep] at h
  split at h
  · cases h
  · cases h
    exact hstate
  · split at h
    · cases h
    · next hrun =>
      cases h
      exact hitem _ hstate _ _ _ hrun

/-- What holds at the beginning of a container, and is kept by every item, holds at its end. -/
theorem gives_gather {f : Frame} {item : α → Read α} {x : α} (hx : P x)
    (hitem : ∀ x, P x → Gives (item x) P) : Gives (gather f item x) P :=
  gives_gatherStep hitem (true, x) hx

/-- A list has the property of its items throughout. -/
theorem gives_listItems {item : Read α} (hitem : Gives item P) :
    Gives (listItems item) fun as => ∀ a ∈ as, P a := by
  have hgather : Gives (gather .list (fun acc => item.map (· :: acc)) []) fun as => ∀ a ∈ as, P a :=
    gives_gather (fun _ h => absurd h List.not_mem_nil) fun acc hacc =>
      gives_map hitem fun a ha => List.forall_mem_cons.mpr ⟨ha, hacc⟩
  exact gives_map hgather fun as has a ha => has a (List.mem_reverse.mp ha)

theorem gives_list {item : Read α} (hitem : Gives item P) :
    Gives (list item) fun as => ∀ a ∈ as, P a := by
  refine gives_leading (fun _ => rfl) fun b s as r h => ?_
  split at h
  · exact gives_listItems hitem _ _ _ h
  · cases h

end

section

variable {ρ : Type} {schema : Schema ρ} {P : ρ → Prop}

/-- Every property of a structure keeps what is known of it. -/
def Schema.Keeps (schema : Schema ρ) (P : ρ → Prop) : Prop :=
  ∀ f ∈ schema.properties, Gives f.read fun change => ∀ x, P x → P (change x)

/-- A member sets a property of its object or is passed over; either keeps what holds of the object. -/
theorem gives_member (hkeeps : schema.Keeps P) (p : Partial ρ) (hp : P p.value) :
    Gives (schema.member p) fun q => P q.value := by
  refine gives_bind fun name => ?_
  split
  · exact gives_bind fun _ => gives_map (gives_anything _) fun _ _ => hp
  · next f hfind =>
    split
    · exact gives_fail _
    · refine gives_bind fun _ => gives_map (hkeeps f (List.mem_of_find?_eq_some hfind)) ?_
      exact fun change hchange => hchange p.value hp

/-- What holds of the empty object and is kept by each property holds of what is read from an object. -/
theorem gives_fromObject (hempty : P schema.empty) (hkeeps : schema.Keeps P) :
    Gives schema.fromObject P := by
  intro s x r h
  simp only [Schema.fromObject] at h
  split at h
  · cases h
  · next p t hgather =>
    have hp : P p.value :=
      gives_gather (P := fun p => P p.value) hempty (gives_member hkeeps) _ _ _ hgather
    obtain ⟨found, hfinish, ⟨⟩⟩ := map_eq_ok.mp h
    unfold Schema.finish at hfinish
    split at hfinish <;> cases hfinish
    exact hp

/-- The same for an object that is written as a list: by induction on the properties, each of which
takes one item. -/
theorem gives_fromItems {fs : List (Property ρ)}
    (hkeeps : ∀ f ∈ fs, Gives f.read fun change => ∀ x, P x → P (change x)) (first : Bool) {x : ρ}
    (hx : P x) : Gives (schema.fromItems fs first x) P := by
  induction fs generalizing first x with
  | nil => exact gives_map (gives_anything _) fun _ _ => hx
  | cons f fs ih =>
    obtain ⟨hf, hfs⟩ := List.forall_mem_cons.mp hkeeps
    intro s y r h
    simp only [Schema.fromItems] at h
    split at h
    · cases h
    · split at h
      · cases h
      · cases h
        exact hx
    · split at h
      · cases h
      · -- the item has made its change, and the rest of the list goes on from there
        next change t hrun => exact ih hfs false (hf _ _ _ hrun x hx) _ _ _ h

/-- **Structures.**  What holds of the empty structure, and is kept by every property, holds of every
structure that is read, from an object or from a list. -/
theorem Schema.parse_keeps (hempty : P schema.empty) (hkeeps : schema.Keeps P) {s : Bytes} {x : ρ}
    (h : schema.parse s = .ok x) : P x := by
  have hread : Gives schema.read P := by
    refine gives_leading (fun _ => rfl) fun b s a r h => ?_
    split at h
    · exact gives_fromObject hempty hkeeps _ _ _ h
    · split at h
      · exact gives_fromItems hkeeps true hempty _ _ _ h
      · cases h
  unfold Schema.parse whole at h
  split at h
  · cases h
  · next hrun =>
    split at h <;> cases h
    exact hread _ _ _ hrun

end

end ThreatLedger.Json
