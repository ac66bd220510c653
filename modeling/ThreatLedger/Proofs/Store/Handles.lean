/-
  What the handles of a namespace share, through all steps in turn.

  1. **Depiction** — `Depicts` reads off the handles what those of one namespace share.  It goes by the
     numbers of connections (`Sound`): no two handles have the same one, and whoever has an invocation
     open is one of the handles.
  2. **Use** — a handle that nobody is in the way of does to its own namespace what the model says, and
     nothing to the others.
  3. **Reopening** — a closed handle takes its invocation with it; the new one has a new number.
  4. **Journals** — so a step in turn does to a namespace what the model does if its handle is of that
     namespace, and nothing if it is not; by induction, so does a run (`followed_run`).
  5. **Fresh handles** — they are sound, and share nothing yet.
-/
import ThreatLedger.Proofs.Store.Connections
import ThreatLedger.Proofs.Store.Sharing

open ThreatLedger.Action

namespace ThreatLedger

open Script

namespace Handles

/-! ## Depiction -/

/-- No two handles have the same number, and numbers are used in turn.  An open invocation is that of a
handle, and differs from what is committed in its namespace only. -/
structure Sound (h : Handles) : Prop where
  below : ∀ {place : Nat} {c : Connection}, h.connections[place]? = some c → c.number < h.opened
  distinct : ∀ {place place' : Nat} {c c' : Connection}, h.connections[place]? = some c →
    h.connections[place']? = some c' → c.number = c'.number → place = place'
  holder : ∀ {i : Invocation}, h.database.invocation = some i →
    ∃ (place : Nat) (c : Connection), h.connections[place]? = some c ∧ c.number = i.holder ∧
      ∀ other, other ≠ c.space → i.table.rows other = h.database.committed.rows other

/-- What the handles of a namespace share.  An open invocation of another namespace is not part of it. -/
inductive Depicts (h : Handles) (space : String) (m : Shared) : Prop
  | free (hfree : h.database.invocation = .none)
      (hm : m = ⟨h.database.committed.rows space, .none⟩)
  | held {i : Invocation} {place : Nat} {c : Connection} (hi : h.database.invocation = some i)
      (hc : h.connections[place]? = some c) (hnumber : c.number = i.holder) (hspace : c.space = space)
      (hm : m = ⟨h.database.committed.rows space, some (place, i.table.rows space)⟩)
  | elsewhere {i : Invocation} {place : Nat} {c : Connection} (hi : h.database.invocation = some i)
      (hc : h.connections[place]? = some c) (hnumber : c.number = i.holder) (hspace : c.space ≠ space)
      (hm : m = ⟨h.database.committed.rows space, .none⟩)

section

variable {h : Handles} {space : String} {m : Shared} {place : Nat} {c : Connection}

/-- A number leads to one handle. -/
theorem Sound.same (hs : Sound h) {place' : Nat} {c' : Connection}
    (hc : h.connections[place]? = some c) (hc' : h.connections[place']? = some c')
    (hnumber : c.number = c'.number) : place = place' ∧ c = c' := by
  have hplace := hs.distinct hc hc' hnumber
  subst hplace
  exact ⟨rfl, Option.some.inj (hc.symm.trans hc')⟩

/-- Nobody is in the way of a handle if there is no open invocation but its own. -/
def Clear (h : Handles) (c : Connection) : Prop :=
  ∀ i, h.database.invocation = some i → c.number = i.holder

/-- What a clear handle sees is what the model says: the rows of its own open invocation, or those that
are committed if it has none. -/
theorem Depicts.shown (hd : Depicts h c.space m) (hs : Sound h)
    (hc : h.connections[place]? = some c) (hclear : h.Clear c) :
    DatabaseStore.Shown (h.view c) (m.view c.space place) ∧ m.waits place = false := by
  cases hd with
  | free hfree hm =>
    subst hm
    exact ⟨DatabaseStore.shown_free hfree, rfl⟩
  | held hi hc' hnumber hspace hm =>
    -- the handle is the one that holds the invocation, because numbers are not shared
    obtain ⟨rfl, rfl⟩ := hs.same hc hc' ((hclear _ hi).trans hnumber.symm)
    subst hm
    rw [Shared.view_own]
    exact ⟨DatabaseStore.shown_own hi hnumber, Shared.waits_own⟩
  | elsewhere hi hc' hnumber hspace hm =>
    -- whoever holds the invocation is in another namespace, so it is not this handle
    obtain ⟨-, rfl⟩ := hs.same hc hc' ((hclear _ hi).trans hnumber.symm)
    exact absurd rfl hspace

/-- The invocation of a clear handle differs from what is committed in its own namespace only. -/
theorem Sound.apart (hs : Sound h) (hc : h.connections[place]? = some c) (hclear : h.Clear c) :
    DatabaseStore.Apart h.database.committed c (h.view c) := by
  refine ⟨rfl, fun _ _ => rfl, fun i hi other hother => ?_⟩
  obtain ⟨place', c', hc', hnumber, happart⟩ := hs.holder hi
  obtain ⟨-, rfl⟩ := hs.same hc hc' ((hclear _ hi).trans hnumber.symm)
  exact happart other hother

/-- While a handle is clear, no handle of another namespace has an invocation open. -/
theorem Depicts.of_clear (hd : Depicts h space m) (hs : Sound h) (hc : h.connections[place]? = some c)
    (hclear : h.Clear c) (hne : space ≠ c.space) :
    m = ⟨h.database.committed.rows space, .none⟩ := by
  cases hd with
  | free _ hm => exact hm
  | held hi hc' hnumber hspace _ =>
    obtain ⟨-, rfl⟩ := hs.same hc hc' ((hclear _ hi).trans hnumber.symm)
    exact absurd hspace.symm hne
  | elsewhere _ _ _ _ hm => exact hm

/-! ## Use -/

variable {d : Database} {t : ReferenceStore}

/-- A clear handle leaves the handles sound: it does not change who is connected, and what it has open
is its own. -/
theorem Sound.leave (hs : Sound h) (hc : h.connections[place]? = some c)
    (hshown : DatabaseStore.Shown ⟨d, c⟩ t)
    (hapart : DatabaseStore.Apart h.database.committed c ⟨d, c⟩) :
    Sound { h with database := d } where
  below := hs.below
  distinct := hs.distinct
  holder := by
    intro i hi
    refine ⟨place, c, hc, ?_, fun other hother => ?_⟩
    · cases hshown with
      | closed committed c => cases hi
      | opened committed table c => cases hi; rfl
    · exact (hapart.invocation i hi other hother).trans (hapart.committed other hother).symm

/-- It leaves behind what it shows of its own namespace. -/
theorem depicts_left (hc : h.connections[place]? = some c)
    (hshown : DatabaseStore.Shown ⟨d, c⟩ t) :
    Depicts { h with database := d } c.space (Shared.left place t) := by
  cases hshown with
  | closed committed c => exact .free rfl rfl
  | opened committed table c => exact .held rfl hc rfl rfl rfl

/-- It leaves every other namespace as it was. -/
theorem Depicts.leave (hd : Depicts h space m) (hs : Sound h) (hc : h.connections[place]? = some c)
    (hclear : h.Clear c) (hne : space ≠ c.space) (hshown : DatabaseStore.Shown ⟨d, c⟩ t)
    (hapart : DatabaseStore.Apart h.database.committed c ⟨d, c⟩) :
    Depicts { h with database := d } space m := by
  have hm := hd.of_clear hs hc hclear hne
  rw [← hapart.committed space hne] at hm
  cases hshown with
  | closed committed c => exact .free rfl hm
  | opened committed table c => exact .elsewhere rfl hc rfl (Ne.symm hne) hm

/-- A handle that waits sees what is kept, and the model says so. -/
theorem Depicts.waiting (hd : Depicts h c.space m) {i : Invocation}
    (hi : h.database.invocation = some i) (hc : h.connections[place]? = some c)
    (hnumber : c.number ≠ i.holder) : m.view c.space place = ⟨m.kept, .none, some c.space⟩ := by
  cases hd with
  | free hfree _ => cases hfree.symm.trans hi
  | @held _ holder c' hi' hc' hnumber' hspace hm =>
    cases hi.symm.trans hi'
    subst hm
    refine Shared.view_other ?_
    -- this place is not that of the holder, since its number is not
    rintro rfl
    cases hc.symm.trans hc'
    exact hnumber hnumber'
  | elsewhere _ _ _ _ hm =>
    subst hm
    rfl

/-- What is kept is what is committed, also while an invocation of the namespace is open. -/
theorem Depicts.kept (hd : Depicts h space m) : m.kept = h.database.committed.rows space := by
  cases hd with
  | free _ hm => rw [hm]
  | held _ _ _ _ hm => rw [hm]
  | elsewhere _ _ _ _ hm => rw [hm]

/-! ## Reopening -/

/-- Whether the handle at a place, if there is one, has no invocation open. -/
def Idle (h : Handles) (place : Nat) : Prop :=
  ∀ i c, h.database.invocation = some i → h.connections[place]? = some c → c.number ≠ i.holder

/-- The handles when an idle one has been replaced, or none if there is none at the place. -/
def replaced (h : Handles) (place : Nat) (other : String) : Handles :=
  ⟨h.database, h.connections.set place ⟨h.opened, other⟩, h.opened + 1⟩

theorem replaced_ne (h : Handles) {place' : Nat} (other : String) (hne : place' ≠ place) :
    (h.replaced place other).connections[place']? = h.connections[place']? :=
  List.getElem?_set_ne hne.symm

theorem replaced_at {other : String} (hc : (h.replaced place other).connections[place]? = some c) :
    c = ⟨h.opened, other⟩ := by
  unfold replaced at hc
  rw [List.getElem?_set_self'] at hc
  obtain ⟨_, -, rfl⟩ := Option.map_eq_some_iff.mp hc
  rfl

/-- The new handle is the one with a number that was not used before. -/
theorem Sound.replaced (hs : Sound h) (hidle : h.Idle place) (other : String) :
    Sound (h.replaced place other) where
  below := by
    intro place' c hc
    by_cases hne : place' = place
    · subst hne
      cases replaced_at hc
      exact Nat.lt_succ_self _
    · rw [replaced_ne h other hne] at hc
      exact Nat.lt_succ_of_lt (hs.below hc)
  distinct := by
    intro a b c c' hc hc' hnumber
    by_cases ha : a = place <;> by_cases hb : b = place
    · exact ha.trans hb.symm
    -- the number of the new handle is above those of all others
    · subst ha
      cases replaced_at hc
      rw [replaced_ne h other hb] at hc'
      exact absurd hnumber (Nat.ne_of_gt (hs.below hc'))
    · subst hb
      cases replaced_at hc'
      rw [replaced_ne h other ha] at hc
      exact absurd hnumber (Nat.ne_of_lt (hs.below hc))
    · rw [replaced_ne h other ha] at hc
      rw [replaced_ne h other hb] at hc'
      exact hs.distinct hc hc' hnumber
  holder := by
    intro i hi
    obtain ⟨place', c, hc, hnumber, happart⟩ := hs.holder hi
    have hne : place' ≠ place := by
      rintro rfl
      exact hidle i c hi hc hnumber
    exact ⟨place', c, (replaced_ne h other hne).trans hc, hnumber, happart⟩

/-- Replacing an idle connection changes nothing of what is depicted: it had no invocation, and the new
one has none. -/
theorem Depicts.replaced (hd : Depicts h space m) (hidle : h.Idle place) (other : String) :
    Depicts (h.replaced place other) space m := by
  have hkeeps : ∀ {i : Invocation} {place' : Nat} {c : Connection},
      h.database.invocation = some i → h.connections[place']? = some c → c.number = i.holder →
      (h.replaced place other).connections[place']? = some c := by
    intro i place' c hi hc hnumber
    refine (replaced_ne h other ?_).trans hc
    rintro rfl
    exact hidle i c hi hc hnumber
  cases hd with
  | free hfree hm => exact .free hfree hm
  | held hi hc hnumber hspace hm => exact .held hi (hkeeps hi hc hnumber) hnumber hspace hm
  | elsewhere hi hc hnumber hspace hm => exact .elsewhere hi (hkeeps hi hc hnumber) hnumber hspace hm

/-- The handles when an open invocation is lost. -/
def lost (h : Handles) : Handles := { h with database := { h.database with invocation := .none } }

theorem lost_idle (h : Handles) (place : Nat) : h.lost.Idle place := nofun

theorem Sound.lost (hs : Sound h) : Sound h.lost := ⟨hs.below, hs.distinct, nofun⟩

theorem Depicts.lost (hd : Depicts h space m) : Depicts h.lost space ⟨m.kept, .none⟩ :=
  .free rfl (by rw [hd.kept]; rfl)

theorem reopen_idle (hidle : h.Idle place) (other : String) :
    h.reopen place other = h.replaced place other := by
  unfold reopen replaced
  split
  · next c hc =>
    cases hi : h.database.invocation with
    | none => rw [Database.close_free hi]
    | some i => rw [Database.close_other hi (hidle i c hi hc)]
  · rfl

/-- Reopening the handle that holds the invocation loses that invocation first. -/
theorem reopen_holder {i : Invocation} (hi : h.database.invocation = some i)
    (hc : h.connections[place]? = some c) (hnumber : c.number = i.holder) (other : String) :
    h.reopen place other = h.lost.replaced place other := by
  unfold reopen
  rw [hc]
  dsimp only
  rw [Database.close_own hi hnumber]
  rfl

end

/-! ## Journals -/

/-- What was done with the handles of a namespace, each with its place. -/
def deedsOn (space : String) (visits : List Visit) : List (Nat × Deed) :=
  (visits.filter (·.space = space)).map fun v => (v.place, v.deed)

/-- What the handles of a namespace answered. -/
def answersOn (space : String) (visits : List Visit) : List (Option (Except StoreError Answer)) :=
  (visits.filter (·.space = space)).map (·.answer)

section

variable (place : Nat) (space : String) (deed : Deed) (answer : Option (Except StoreError Answer))

theorem deedsOn_own : deedsOn space [⟨place, space, deed, answer⟩] = [(place, deed)] := by
  simp [deedsOn]

theorem answersOn_own : answersOn space [⟨place, space, deed, answer⟩] = [answer] := by
  simp [answersOn]

variable {v : Visit} {space}

theorem deedsOn_other (h : v.space ≠ space) : deedsOn space [v] = [] := by simp [deedsOn, h]

theorem answersOn_other (h : v.space ≠ space) : answersOn space [v] = [] := by simp [answersOn, h]

end

/-- Handles after what was done with them: in each namespace the model has done the same. -/
structure Followed (h : Handles) (visits : List Visit) (h' : Handles) : Prop where
  sound : Sound h'
  depicts : ∀ {space : String} {m : Shared}, Depicts h space m →
    Depicts h' space (m.nextAll space (deedsOn space visits))
  answers : ∀ {space : String} {m : Shared}, Depicts h space m →
    answersOn space visits = m.answers space (deedsOn space visits)

section

variable {h h' h'' : Handles} {place : Nat} {c : Connection}

theorem Followed.refl (hs : Sound h) : Followed h [] h := ⟨hs, fun hd => hd, fun _ => rfl⟩

/-- Visits that are followed one after the other are followed together, namespace by namespace: the
second ones begin with the model that the first ones end with. -/
theorem Followed.trans {visits visits' : List Visit} (hfirst : Followed h visits h')
    (hsecond : Followed h' visits' h'') : Followed h (visits ++ visits') h'' where
  sound := hsecond.sound
  depicts := by
    intro space m hd
    have hboth := hsecond.depicts (hfirst.depicts hd)
    unfold deedsOn at hboth ⊢
    rw [List.filter_append, List.map_append, Shared.nextAll_append]
    exact hboth
  answers := by
    intro space m hd
    have hboth := hsecond.answers (hfirst.depicts hd)
    have hfront := hfirst.answers hd
    unfold answersOn deedsOn at hboth hfront ⊢
    rw [List.filter_append, List.map_append, List.map_append, Shared.answers_append, hfront, hboth]

/-- One visit, which only handles of its namespace notice. -/
theorem Followed.one {v : Visit} (hs : Sound h')
    (hown : ∀ {m : Shared}, Depicts h v.space m →
      Depicts h' v.space (m.next v.space v.place v.deed) ∧ v.answer = m.answer v.space v.place v.deed)
    (hother : ∀ {space : String} {m : Shared}, space ≠ v.space → Depicts h space m →
      Depicts h' space m) : Followed h [v] h' where
  sound := hs
  depicts := by
    intro space m hd
    -- a visit of this namespace is one of its deeds, and any other one is not among them
    by_cases hspace : v.space = space
    · subst hspace
      obtain ⟨place, space, deed, answer⟩ := v
      rw [deedsOn_own]
      exact (hown hd).1
    · rw [deedsOn_other hspace]
      exact hother (Ne.symm hspace) hd
  answers := by
    intro space m hd
    by_cases hspace : v.space = space
    · subst hspace
      obtain ⟨place, space, deed, answer⟩ := v
      rw [deedsOn_own, answersOn_own]
      exact congrArg (· :: []) (hown hd).2
    · rw [deedsOn_other hspace, answersOn_other hspace]
      rfl

/-- What is shared is said for every namespace. -/
theorem Sound.depicted (hs : Sound h) (space : String) : ∃ m, Depicts h space m := by
  cases hi : h.database.invocation with
  | none => exact ⟨_, .free hi rfl⟩
  | some i =>
    obtain ⟨place, c, hc, hnumber, -⟩ := hs.holder hi
    by_cases hspace : c.space = space
    · exact ⟨_, .held hi hc hnumber hspace rfl⟩
    · exact ⟨_, .elsewhere hi hc hnumber hspace rfl⟩

/-- A handle that nobody is in the way of runs a step.  In its own namespace the model takes the same
step, and every other namespace is left as it was. -/
theorem followed_clear (hs : Sound h) (hc : h.connections[place]? = some c) (hclear : h.Clear c)
    (step : Script.Step) :
    Followed h [⟨place, c.space, .ran step, some ((use c step.run).run h).result⟩]
      ((use c step.run).run h).store := by
  have hrun := fun {m : Shared} (hd : Depicts h c.space m) =>
    DatabaseStore.run_step_apart (hd.shown hs hc hclear).1 (hs.apart hc hclear) step
  -- what the handle leaves does not depend on who depicts it, so any depiction will do to find it
  obtain ⟨m₀, hm₀⟩ := hs.depicted c.space
  obtain ⟨-, hshown, hapart⟩ := hrun hm₀
  obtain ⟨d, hd⟩ : ∃ d, (step.run.run (h.view c)).store = ⟨d, c⟩ := ⟨_, hapart.store_eq⟩
  have hstore : ((use c step.run).run h).store = { h with database := d } :=
    congrArg (fun s : DatabaseStore => { h with database := s.database }) hd
  rw [hd] at hshown hapart
  rw [hstore]
  refine .one (hs.leave hc hshown hapart) (fun {m} hm => ?_) fun hne hm =>
    hm.leave hs hc hclear hne hshown hapart
  obtain ⟨hresult, hshown, -⟩ := hrun hm
  rw [hd] at hshown
  refine ⟨?_, congrArg some hresult⟩
  rw [Shared.next_ran (hm.shown hs hc hclear).2]
  exact depicts_left hc hshown

/-- A handle that another one is in the way of looks, and sees what is committed.  A step that is not
quiet would be out of turn. -/
theorem followed_waiting (hs : Sound h) (hc : h.connections[place]? = some c) {i : Invocation}
    (hi : h.database.invocation = some i) (hnumber : c.number ≠ i.holder) {step : Script.Step}
    (hquiet : step.isQuiet) :
    Followed h [⟨place, c.space, .ran step, some ((use c step.run).run h).result⟩]
      ((use c step.run).run h).store := by
  obtain ⟨hresult, hstore⟩ := DatabaseStore.run_step_waiting hi hnumber hquiet
  -- nothing but the database could have changed, and that has not
  have hsame : ((use c step.run).run h).store = h :=
    congrArg (fun s : DatabaseStore => { h with database := s.database }) hstore
  rw [hsame]
  refine .one hs (fun {m} hm => ?_) fun _ hm => hm
  have hview := hm.waiting hi hc hnumber
  constructor
  · rw [Shared.next_of_quiet hview hquiet]
    exact hm
  · refine congrArg some ?_
    rw [hview, hm.kept]
    exact hresult

/-- A handle that has no invocation open is reopened. -/
theorem followed_reopen_idle (hs : Sound h) (hc : h.connections[place]? = some c)
    (hidle : h.Idle place) (other : String) :
    Followed h [⟨place, c.space, .closed, .none⟩] (h.reopen place other) := by
  rw [reopen_idle hidle]
  refine .one (hs.replaced hidle other) (fun {m} hm => ?_) fun _ hm => hm.replaced hidle other
  -- the model does not change either: no invocation of this place is open
  have hnext : m.next c.space place .closed = m := by
    cases hm with
    | free _ hm => subst hm; rfl
    | @held i holder c' hi hc' hnumber _ hm =>
      subst hm
      refine Shared.next_waits (Shared.waits_other ?_) _
      rintro rfl
      exact hidle i c' hi hc' hnumber
    | elsewhere _ _ _ _ hm => subst hm; rfl
  rw [hnext]
  exact ⟨hm.replaced hidle other, rfl⟩

/-- The handle that has an invocation open is reopened, and what it had written is lost, in the model as
in the database. -/
theorem followed_reopen_holder (hs : Sound h) (hc : h.connections[place]? = some c) {i : Invocation}
    (hi : h.database.invocation = some i) (hnumber : c.number = i.holder) (other : String) :
    Followed h [⟨place, c.space, .closed, .none⟩] (h.reopen place other) := by
  have hclear : h.Clear c := by
    intro i' hi'
    cases hi.symm.trans hi'
    exact hnumber
  rw [reopen_holder hi hc hnumber]
  refine .one (hs.lost.replaced (h.lost_idle place) other) (fun {m} hm => ?_) fun hne hm =>
    .free rfl (hm.of_clear hs hc hclear hne)
  rw [Shared.next_closed (hm.shown hs hc hclear).2]
  exact ⟨hm.lost.replaced (h.lost_idle place) other, rfl⟩

/-- **Steps.**  A step in turn does to its namespace what the model does, and nothing to the others. -/
theorem followed_step (hs : Sound h) {step : Step} (hturn : h.InTurn step) :
    Followed h (h.visit step).toList (h.after step) := by
  cases step with
  | use place step =>
    cases hc : h.connections[place]? with
    | none =>
      rw [visit_absent hc, after_use_absent hc]
      exact .refl hs
    | some c =>
      rw [visit_at hc, after_use hc]
      by_cases hclear : h.Clear c
      · exact followed_clear hs hc hclear step
      -- the invocation of somebody else is open, so the step would be out of turn if it were not quiet
      · unfold Clear at hclear
        push Not at hclear
        obtain ⟨i, hi, hnumber⟩ := hclear
        refine followed_waiting hs hc hi hnumber (hturn.resolve_right fun hholds => ?_)
        obtain ⟨c', hc', hholder⟩ := hholds i hi
        cases hc.symm.trans hc'
        exact hnumber hholder
  | reopen place other =>
    show Followed h _ (h.reopen place other)
    cases hc : h.connections[place]? with
    | none =>
      have hidle : h.Idle place := fun i c hi hc' => nomatch hc.symm.trans hc'
      rw [visit_absent hc, reopen_idle hidle]
      exact ⟨hs.replaced hidle other, fun hm => hm.replaced hidle other, fun _ => rfl⟩
    | some c =>
      rw [visit_at hc]
      by_cases hidle : h.Idle place
      · exact followed_reopen_idle hs hc hidle other
      · unfold Idle at hidle
        push Not at hidle
        obtain ⟨i, c', hi, hc', hnumber⟩ := hidle
        cases hc.symm.trans hc'
        exact followed_reopen_holder hs hc hi hnumber other

/-- **Runs.**  By induction on the steps, each of which is in turn: what one step leaves sound and
depicted, the next one begins with. -/
theorem followed_run (hs : Sound h) {steps : List Step} (hturn : h.AllInTurn steps) :
    Followed h (h.journal steps) (h.afterAll steps) := by
  induction steps generalizing h with
  | nil => exact .refl hs
  | cons step steps ih =>
    have hfirst := followed_step hs hturn.1
    exact hfirst.trans (ih hfirst.sound hturn.2)

/-! ## Fresh handles -/

/-- Handles are numbered in the order in which they are opened, from the number that comes next.  By
induction on the namespaces. -/
theorem foldl_openOn (h : Handles) (spaces : List String) :
    spaces.foldl openOn h =
      ⟨h.database, h.connections ++ spaces.mapIdx fun k space => ⟨h.opened + k, space⟩,
        h.opened + spaces.length⟩ := by
  induction spaces generalizing h with
  | nil => simp
  | cons space spaces ih =>
    rw [List.foldl_cons, ih]
    simp [openOn, List.mapIdx_cons, Nat.add_assoc, Nat.add_comm 1]

/-- Fresh handles are numbered by their places. -/
theorem fresh_eq (spaces : List String) :
    fresh spaces = ⟨.empty, spaces.mapIdx fun place space => ⟨place, space⟩, spaces.length⟩ := by
  unfold fresh
  rw [foldl_openOn]
  simp [none]

theorem number_fresh {spaces : List String} (hc : (fresh spaces).connections[place]? = some c) :
    c.number = place := by
  rw [fresh_eq, List.getElem?_mapIdx] at hc
  obtain ⟨space, -, rfl⟩ := Option.map_eq_some_iff.mp hc
  rfl

/-- Handles that were just opened are sound: their numbers are their places, and no invocation is
open. -/
theorem sound_fresh (spaces : List String) : Sound (fresh spaces) where
  below := by
    intro place c hc
    have hlt := (List.getElem?_eq_some_iff.mp hc).1
    rw [number_fresh hc]
    rw [fresh_eq] at hlt ⊢
    exact List.length_mapIdx ▸ hlt
  distinct := by
    intro place place' c c' hc hc' hnumber
    rw [← number_fresh hc, ← number_fresh hc', hnumber]
  holder := by
    rw [fresh_eq]
    nofun

theorem depicts_fresh (spaces : List String) (space : String) :
    Depicts (fresh spaces) space .empty := by
  rw [fresh_eq]
  exact .free rfl rfl

/-- What a handle sees is what the model shows at its place. -/
theorem Depicts.rowsFor {m : Shared} (hd : Depicts h c.space m) (hs : Sound h)
    (hc : h.connections[place]? = some c) :
    h.database.rowsFor c = (m.view c.space place).entries := by
  by_cases hclear : h.Clear c
  · have hshown := (hd.shown hs hc hclear).1
    exact hshown.rowsFor
  · unfold Clear at hclear
    push Not at hclear
    obtain ⟨i, hi, hnumber⟩ := hclear
    rw [hd.waiting hi hc hnumber, hd.kept]
    exact Database.rowsFor_other hi hnumber

end

end Handles
end ThreatLedger
