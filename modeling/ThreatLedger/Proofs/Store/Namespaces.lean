/-
  Namespaces on one database, whatever handles come and go.

  1. **Steps** — what a step in turn does to the depiction of a namespace (`Depicts.after_step`), and
     what the model says of a handle by whether its invocation is open (`Depicts.held_iff`).
  2. **Closing** — by induction on the run, whoever has an invocation open has begun it, and what has
     been kept since is what was there at that begin.
  3. **Publishing** — what is written outside an invocation, or committed, is kept; by induction on the
     steps after it, it stays so until something else is.
  4. **Namespaces** — `namespaces_apart` says it for every run in turn of fresh handles.
-/
import Mathlib.Data.List.Induction
import ThreatLedger.Proofs.Store.Handles

open ThreatLedger.Action

namespace ThreatLedger

open Script

namespace Handles

/-! ## Steps -/

section

variable {h : Handles} {space : String} {m : Shared} {place : Nat} {c : Connection} {step : Step}

/-- A handle has an invocation open exactly if the model says so of its place. -/
theorem Depicts.held_iff (hd : Depicts h c.space m) (hs : Sound h)
    (hc : h.connections[place]? = some c) :
    h.database.heldBy c = true ↔ ∃ rows, m.working = some (place, rows) := by
  constructor
  · intro hheld
    obtain ⟨i, hi, hnumber⟩ := Database.holder_of_heldBy hheld
    cases hd with
    | free hfree _ => cases hfree.symm.trans hi
    | held hi' hc' hnumber' _ hm =>
      cases hi.symm.trans hi'
      -- one number, one handle: who holds the invocation is at this place
      obtain ⟨rfl, -⟩ := hs.same hc hc' (hnumber.trans hnumber'.symm)
      exact ⟨_, congrArg Shared.working hm⟩
    | elsewhere hi' hc' hnumber' hspace _ =>
      cases hi.symm.trans hi'
      obtain ⟨-, rfl⟩ := hs.same hc hc' (hnumber.trans hnumber'.symm)
      exact absurd rfl hspace
  · rintro ⟨rows, hworking⟩
    cases hd with
    | free _ hm => rw [hm] at hworking; cases hworking
    | held hi hc' hnumber _ hm =>
      rw [hm] at hworking
      cases hworking
      cases hc.symm.trans hc'
      exact Database.heldBy_own hi hnumber
    | elsewhere _ _ _ _ hm => rw [hm] at hworking; cases hworking

/-- The handle whose writes are depicted as working is open, in that namespace. -/
theorem Depicts.holder {rows : KeyMap Bytes} (hd : Depicts h space m)
    (hworking : m.working = some (place, rows)) :
    ∃ c, h.connections[place]? = some c ∧ c.space = space := by
  cases hd with
  | free _ hm => rw [hm] at hworking; cases hworking
  | held _ hc _ hspace hm =>
    rw [hm] at hworking
    cases hworking
    exact ⟨_, hc, hspace⟩
  | elsewhere _ _ _ _ hm => rw [hm] at hworking; cases hworking

theorem Depicts.unheld (hd : Depicts h c.space m) (hs : Sound h) (hc : h.connections[place]? = some c)
    (hfree : m.working = .none) : h.database.heldBy c = false := by
  refine Bool.eq_false_iff.mpr fun hheld => ?_
  obtain ⟨rows, hworking⟩ := (hd.held_iff hs hc).mp hheld
  cases hfree.symm.trans hworking

/-- A step in turn of a handle of the namespace does what the model says, and any other step nothing. -/
theorem Depicts.after_step (hd : Depicts h space m) (hs : Sound h) (hturn : h.InTurn step) :
    Depicts (h.after step) space m ∧
        (∀ c, h.connections[step.place]? = some c → c.space ≠ space) ∨
      ∃ c, h.connections[step.place]? = some c ∧ c.space = space ∧
        Depicts (h.after step) space (m.next space step.place step.deed) ∧
        h.answerOf c step.deed = m.answer space step.place step.deed := by
  have hfollowed := followed_step hs hturn
  have hafter := hfollowed.depicts hd
  have hanswers := hfollowed.answers hd
  cases hc : h.connections[step.place]? with
  | none =>
    rw [visit_absent hc] at hafter
    exact .inl ⟨hafter, nofun⟩
  | some c =>
    rw [visit_at hc] at hafter hanswers
    by_cases hspace : c.space = space
    · subst hspace
      rw [Option.toList_some, deedsOn_own] at hafter hanswers
      rw [answersOn_own] at hanswers
      exact .inr ⟨c, rfl, rfl, hafter, List.head_eq_of_cons_eq hanswers⟩
    · rw [Option.toList_some, deedsOn_other hspace] at hafter
      refine .inl ⟨hafter, ?_⟩
      rintro _ ⟨⟩
      exact hspace

/-- A handle was there before a step that did not open it.  Reopening puts a new one in the same place,
so that is the step to be excluded. -/
theorem connection_before (hc : (h.after step).connections[place]? = some c)
    (hnew : step.deed = .closed → step.place ≠ place) : h.connections[place]? = some c := by
  cases step with
  | use used step =>
    cases hused : h.connections[used]? with
    | none => rwa [after_use_absent hused] at hc
    | some c' =>
      rw [after_use hused] at hc
      exact hc
  | reopen reopened other =>
    exact (List.getElem?_set_ne (hnew rfl)).symm.trans hc

/-! ## Closing -/

/-- A handle that has an invocation open after a step either has begun it with this step, or had it open
before and has not ended it.  What is committed of its namespace is the same before and after. -/
theorem held_step (hs : Sound h) (hturn : h.InTurn step)
    (hc : (h.after step).connections[place]? = some c)
    (hheld : (h.after step).database.heldBy c = true) :
    h.connections[place]? = some c ∧
      (h.after step).database.committed.rows c.space = h.database.committed.rows c.space ∧
      (h.database.heldBy c = false ∧ step = .use place (.call .begin) ∧
          h.answerOf c (.ran (.call .begin)) = some (.ok (.reply (.ok .done))) ∨
        h.database.heldBy c = true ∧ (step.place = place → step.deed.ends = false)) := by
  obtain ⟨m, hd⟩ := hs.depicted c.space
  have hs' := (followed_step hs hturn).sound
  obtain ⟨hafter, hspace⟩ | ⟨c', hc', hspace, hafter, hanswer⟩ := hd.after_step hs hturn
  · obtain ⟨rows, hworking⟩ := (hafter.held_iff hs' hc).mp hheld
    -- the step is about a handle of another namespace, so it is not about this one
    have hplace : step.place ≠ place := by
      rintro rfl
      obtain ⟨c', hc', hsame⟩ := hd.holder hworking
      exact hspace c' hc' hsame
    have hbefore := connection_before hc fun _ => hplace
    refine ⟨hbefore, hafter.kept.symm.trans hd.kept, .inr ⟨?_, fun hsame => absurd hsame hplace⟩⟩
    exact (hd.held_iff hs hbefore).mpr ⟨rows, hworking⟩
  · obtain ⟨rows, hworking⟩ := (hafter.held_iff hs' hc).mp hheld
    obtain ⟨hkept, hcases⟩ := Shared.working_next hworking
    have hcommitted : (h.after step).database.committed.rows c.space
        = h.database.committed.rows c.space := hafter.kept.symm.trans (hkept.trans hd.kept)
    obtain ⟨hfree, hplace, hdeed, hdone⟩ | ⟨before, hopen, hends⟩ := hcases
    · have hbefore := connection_before hc fun hclosed => nomatch hdeed.symm.trans hclosed
      refine ⟨hbefore, hcommitted, .inl ⟨hd.unheld hs hbefore hfree, ?_, ?_⟩⟩
      · cases step with
        | use used step =>
          cases hplace
          cases hdeed
          rfl
        | reopen _ _ => cases hdeed
      · rw [hplace] at hc'
        cases hbefore.symm.trans hc'
        rw [← hdeed, hanswer]
        exact hdone
    · have hbefore := connection_before hc fun hclosed hsame => by
        rw [hclosed] at hends
        cases hends hsame
      exact ⟨hbefore, hcommitted, .inr ⟨(hd.held_iff hs hbefore).mpr ⟨before, hopen⟩, hends⟩⟩

end

/-- In a run the handle at a place has begun an invocation, and has not ended it since; the rows are
those that it saw when it began. -/
inductive Begun (h : Handles) (place : Nat) (c : Connection) : List Step → KeyMap Bytes → Prop
  | since (before during : List Step) (hc : (h.afterAll before).connections[place]? = some c)
    (hdone : (h.afterAll before).answerOf c (.ran (.call .begin)) = some (.ok (.reply (.ok .done))))
    (hopen : ∀ step ∈ during, step.place = place → step.deed.ends = false) :
    Begun h place c (before ++ .use place (.call .begin) :: during)
      ((h.afterAll before).database.rowsFor c)

section

variable {h : Handles} {place : Nat} {c : Connection}

/-- An invocation that has begun goes on until a step of its own handle ends it; other handles
cannot. -/
theorem Begun.goes_on {steps : List Step} {rows : KeyMap Bytes} (hbegun : h.Begun place c steps rows)
    {step : Step} (hends : step.place = place → step.deed.ends = false) :
    h.Begun place c (steps ++ [step]) rows := by
  cases hbegun with
  | since before during hc hdone hopen =>
    rw [List.append_assoc, List.cons_append]
    refine .since before (during ++ [step]) hc hdone fun step' hstep' hplace => ?_
    rcases List.mem_append.mp hstep' with hduring | hlast
    · exact hopen step' hduring hplace
    · cases List.mem_singleton.mp hlast
      exact hends hplace

/-- **Closing.**  Whoever has an invocation open has begun it, and what is committed of its namespace is
what it saw then: by induction on the run, from its last step backwards. -/
theorem begun_of_held (hs : Sound h) (hfree : h.database.invocation = .none) {steps : List Step}
    (hturn : h.AllInTurn steps) (hc : (h.afterAll steps).connections[place]? = some c)
    (hheld : (h.afterAll steps).database.heldBy c = true) :
    h.Begun place c steps ((h.afterAll steps).database.committed.rows c.space) := by
  induction steps using List.reverseRecOn with
  | nil =>
    obtain ⟨i, hi, -⟩ := Database.holder_of_heldBy hheld
    cases hfree.symm.trans hi
  | append_singleton steps step ih =>
    obtain ⟨hearlier, hlast, -⟩ := (allInTurn_append h steps [step]).mp hturn
    have hs' := (followed_run hs hearlier).sound
    rw [afterAll_append] at hc hheld ⊢
    obtain ⟨hbefore, hcommitted, ⟨hunheld, hstep, hdone⟩ | ⟨hheld', hends⟩⟩ :=
      held_step hs' hlast hc hheld
    -- the last step has begun it, while the handle saw what is committed
    · have hbegun := Begun.since steps [] hbefore hdone nofun
      rw [Database.rowsFor_unheld hunheld] at hbegun
      subst hstep
      exact hcommitted.symm ▸ hbegun
    · exact hcommitted.symm ▸ (ih hearlier hbefore hheld').goes_on hends

/-- When the handle is closed, every handle of its namespace sees what is committed. -/
theorem rowsFor_closed (hc : h.connections[place]? = some c) (hheld : h.database.heldBy c = true)
    (other : String) (c' : Connection) :
    (h.reopen place other).database.rowsFor c' = h.database.committed.rows c'.space := by
  obtain ⟨i, hi, hnumber⟩ := Database.holder_of_heldBy hheld
  rw [reopen_holder hi hc hnumber]
  exact Database.rowsFor_free rfl

end

/-! ## Publishing -/

/-- What a handle makes public with a step, and the rows that it then sees: it writes while it has no
invocation open, or commits. -/
inductive Publishes (h : Handles) (place : Nat) (c : Connection) : Script.Step → KeyMap Bytes → Prop
  | put (key : String) (value : Bytes) (hunheld : h.database.heldBy c = false) :
    Publishes h place c (.call (.put key value)) ((h.database.rowsFor c).insert key value)
  | delete (key : String) (hunheld : h.database.heldBy c = false) :
    Publishes h place c (.call (.delete key)) ((h.database.rowsFor c).erase key)
  | block (steps : List Script.Step) (keepsGoing : Bool) (failure : Option String)
    (hunheld : h.database.heldBy c = false) :
    Publishes h place c (.block steps keepsGoing failure)
      ((h.after (.use place (.block steps keepsGoing failure))).database.rowsFor c)
  | commit (hheld : h.database.heldBy c = true) :
    Publishes h place c (.call .commit) (h.database.rowsFor c)

/-- No handle of a namespace makes anything public. -/
def Unpublished (h : Handles) (space : String) : List Step → Prop
  | [] => True
  | step :: steps =>
    (∀ place c published rows, step = .use place published → h.connections[place]? = some c →
      c.space = space → ¬h.Publishes place c published rows) ∧
    (h.after step).Unpublished space steps

section

variable {h : Handles} {space : String} {m : Shared} {place : Nat} {c : Connection}

/-- A write outside of an invocation publishes by itself, as a whole invocation does when it is
committed. -/
theorem publishes_of_writes {step : Script.Step} (hwrites : step.writes = true) (place : Nat)
    (hunheld : h.database.heldBy c = false) : ∃ rows, h.Publishes place c step rows := by
  cases step with
  | block steps keepsGoing failure => exact ⟨_, .block steps keepsGoing failure hunheld⟩
  | call call =>
    cases call with
    | put key value => exact ⟨_, .put key value hunheld⟩
    | delete key => exact ⟨_, .delete key hunheld⟩
    | get key => cases hwrites
    | scan range => cases hwrites
    | begin => cases hwrites
    | commit => cases hwrites
    | rollback => cases hwrites

/-- Who writes in turn, and has no invocation open, writes while nobody has one open. -/
theorem Depicts.free_of_turn (hd : Depicts h c.space m) (hc : h.connections[place]? = some c)
    {step : Script.Step} (hturn : h.InTurn (.use place step)) (hquiet : step.isQuiet = false)
    (hunheld : h.database.heldBy c = false) : m = ⟨h.database.rowsFor c, .none⟩ := by
  have hholds := hturn.resolve_left (Bool.eq_false_iff.mp hquiet)
  -- whoever held an invocation would be this handle, which has none open
  have hfree : h.database.invocation = .none := by
    refine Option.eq_none_iff_forall_ne_some.mpr fun i hi => ?_
    obtain ⟨c', hc', hnumber⟩ := hholds i hi
    cases hc.symm.trans hc'
    cases (Database.heldBy_own hi hnumber).symm.trans hunheld
  rw [Database.rowsFor_free hfree]
  cases hd with
  | free _ hm => exact hm
  | held hi _ _ _ _ => cases hfree.symm.trans hi
  | elsewhere hi _ _ _ _ => cases hfree.symm.trans hi

/-- What is made public is kept, and no invocation of the namespace is open. -/
theorem Depicts.published (hd : Depicts h c.space m) (hs : Sound h)
    (hc : h.connections[place]? = some c) {step : Script.Step} {rows : KeyMap Bytes}
    (hpublishes : h.Publishes place c step rows) (hturn : h.InTurn (.use place step)) :
    Depicts (h.after (.use place step)) c.space ⟨rows, .none⟩ := by
  obtain ⟨-, hspace⟩ | ⟨c', hc', -, hafter, -⟩ := hd.after_step hs hturn
  · exact absurd rfl (hspace c hc)
  · -- in each case the model takes the step on what the handle has seen
    have hnext : m.next c.space place (.ran step) = ⟨rows, .none⟩ := by
      cases hpublishes with
      | put key value hunheld =>
        rw [hd.free_of_turn hc hturn rfl hunheld]
        exact Shared.next_call c.space place (.put key value)
      | delete key hunheld =>
        rw [hd.free_of_turn hc hturn rfl hunheld]
        exact Shared.next_call c.space place (.delete key)
      | block steps keepsGoing failure hunheld =>
        have hs' := (followed_step hs hturn).sound
        have hc' : (h.after (.use place (.block steps keepsGoing failure))).connections[place]?
            = some c := by
          rw [after_use hc]
          exact hc
        rw [hd.free_of_turn hc hturn rfl hunheld] at hafter ⊢
        obtain ⟨after, hnext⟩ : ∃ after, Shared.next ⟨h.database.rowsFor c, .none⟩ c.space place
            (.ran (.block steps keepsGoing failure)) = ⟨after, .none⟩ :=
          Shared.next_block c.space place steps keepsGoing failure
        have hleft : Depicts _ c.space ⟨after, .none⟩ := hnext ▸ hafter
        rw [hnext, hleft.rowsFor hs' hc']
        rfl
      | commit hheld =>
        obtain ⟨rows, hopen⟩ := (hd.held_iff hs hc).mp hheld
        rw [hd.rowsFor hs hc]
        obtain ⟨kept, _⟩ := m
        cases hopen
        rw [Shared.view_own]
        exact Shared.next_call_own c.space place .commit
    exact hnext ▸ hafter

/-- What is kept stays, and who sees it and does not write goes on seeing it.  By induction on the
steps, of which none makes public what is written in this namespace. -/
theorem unpublished_run (hs : Sound h) {steps : List Step} (hturn : h.AllInTurn steps)
    (hunpublished : h.Unpublished space steps) (hd : Depicts h space m) :
    ∃ m', Depicts (h.afterAll steps) space m' ∧ m'.kept = m.kept ∧
      ∀ place, (m.view space place).entries = m.kept →
        (∀ step, Step.use place step ∈ steps → step.writes = false) →
        (m'.view space place).entries = m.kept := by
  induction steps generalizing h m with
  | nil => exact ⟨m, hd, rfl, fun _ hview _ => hview⟩
  | cons step steps ih =>
    have hs' := (followed_step hs hturn.1).sound
    obtain ⟨hafter, -⟩ | ⟨c, hc, rfl, hafter, -⟩ := hd.after_step hs hturn.1
    · obtain ⟨m', hm', hkept, hviews⟩ := ih hs' hturn.2 hunpublished.2 hafter
      refine ⟨m', hm', hkept, fun place hview hreads => hviews place hview fun s hstep => ?_⟩
      exact hreads s (List.mem_cons_of_mem _ hstep)
    -- the step is one of the namespace; if it changed what is kept, it would make something public
    · have hkept : (m.next c.space step.place step.deed).kept = m.kept := by
        apply Shared.kept_next
        · intro s hdeed hfree
          refine Bool.eq_false_iff.mpr fun hwrites => ?_
          have hunheld := hd.unheld hs hc hfree
          obtain ⟨rows, hpublishes⟩ := publishes_of_writes hwrites step.place hunheld
          exact hunpublished.1 _ c s rows (Step.eq_use hdeed) hc rfl hpublishes
        · intro rows hopen hdeed
          have hheld := (hd.held_iff hs hc).mpr ⟨rows, hopen⟩
          exact hunpublished.1 _ c _ _ (Step.eq_use hdeed) hc rfl (.commit hheld)
      obtain ⟨m', hm', hkept', hviews⟩ := ih hs' hturn.2 hunpublished.2 hafter
      refine ⟨m', hm', hkept'.trans hkept, fun place hview hreads => ?_⟩
      rw [hkept] at hviews
      refine hviews place ?_ fun s hstep => hreads s (List.mem_cons_of_mem _ hstep)
      refine Shared.view_next hkept hview fun hplace s hdeed => hreads s ?_
      rw [← hplace, ← Step.eq_use hdeed]
      exact List.mem_cons_self

end

/-! ## Namespaces -/

/-- What the handles of a namespace can rely on in a run, whoever else there is. -/
structure KeepsApart (h : Handles) (steps : List Step) : Prop where
  /-- What they answer follows from what was done with them. -/
  answers : ∀ space, answersOn space (h.journal steps)
    = Shared.empty.answers space (deedsOn space (h.journal steps))
  /-- So does what each of them sees in the end. -/
  sees : ∀ place c, (h.afterAll steps).connections[place]? = some c →
    (h.afterAll steps).database.rowsFor c =
      ((Shared.empty.nextAll c.space (deedsOn c.space (h.journal steps))).view c.space place).entries
  /-- If one that has an invocation open is closed, all see what it saw when it began it. -/
  closing : ∀ place c, (h.afterAll steps).connections[place]? = some c →
    (h.afterAll steps).database.heldBy c = true →
    ∃ rows, h.Begun place c steps rows ∧ ∀ (other : String) (place' : Nat) (c' : Connection),
      ((h.afterAll steps).reopen place other).connections[place']? = some c' → c'.space = c.space →
      ((h.afterAll steps).reopen place other).database.rowsFor c' = rows
  /-- What one makes public all see, opened before or after, until one of them makes something else
  public; but who has an invocation open sees what it has written itself. -/
  publishing : ∀ before place step later c rows, steps = before ++ .use place step :: later →
    (h.afterAll before).connections[place]? = some c →
    (h.afterAll before).Publishes place c step rows →
    ((h.afterAll before).after (.use place step)).Unpublished c.space later →
    ∀ place' c', (h.afterAll steps).connections[place']? = some c' → c'.space = c.space →
      ((h.afterAll steps).database.heldBy c' = false ∨
        ∀ written, Step.use place' written ∈ later → written.writes = false) →
      (h.afterAll steps).database.rowsFor c' = rows

/-- **Namespaces.**  Fresh handles keep their namespaces apart in every run in turn: what each of them
is answered can be told from the visits to its own namespace. -/
theorem namespaces_apart (spaces : List String) (steps : List Step)
    (hturn : (fresh spaces).AllInTurn steps) : KeepsApart (fresh spaces) steps := by
  have hs := sound_fresh spaces
  have hrun := followed_run hs hturn
  constructor
  case answers => exact fun space => hrun.answers (depicts_fresh spaces space)
  case sees =>
    exact fun place c hc => (hrun.depicts (depicts_fresh spaces c.space)).rowsFor hrun.sound hc
  case closing =>
    intro place c hc hheld
    refine ⟨_, begun_of_held hs (by rw [fresh_eq]; rfl) hturn hc hheld, ?_⟩
    intro other place' c' _ hspace
    rw [rowsFor_closed hc hheld, hspace]
  case publishing =>
    rintro before place step later c rows rfl hc hpublishes hunpublished place' c' hc' hspace hreads
    obtain ⟨hbefore, hstep, hlater⟩ := (allInTurn_append _ before _).mp hturn
    -- the run is cut at the step that publishes, and what it kept stays kept behind it
    have hs₁ := (followed_run hs hbefore).sound
    obtain ⟨m, hd⟩ := hs₁.depicted c.space
    have hd' := hd.published hs₁ hc hpublishes hstep
    obtain ⟨m', hm', hkept, hviews⟩ :=
      unpublished_run (followed_step hs₁ hstep).sound hlater hunpublished hd'
    rw [afterAll_append] at hc' hreads ⊢
    rcases hreads with hunheld | hreads
    · rw [Database.rowsFor_unheld hunheld, hspace]
      exact hm'.kept.symm.trans hkept
    · have hs₂ := (followed_run (followed_step hs₁ hstep).sound hlater).sound
      rw [← hspace] at hm'
      refine (hm'.rowsFor hs₂ hc').trans ?_
      rw [hspace]
      exact hviews place' rfl hreads

/-- The second handle of a namespace is closed before it commits: the first one sees what it has put
itself, and the handle of another namespace has seen nothing. -/
theorem closed_handle_forgotten :
    let h := fresh ["a", "a", "b"]
    let steps : List Step := [.use 0 (.call (.put "k" (.ofText "v"))), .use 1 (.call .begin),
      .use 1 (.call (.put "k" (.ofText "w"))), .use 2 (.call (.get "k"))]
    h.AllInTurn steps ∧ h.KeepsApart steps ∧
      answersOn "b" (h.journal steps) = [some (.ok (.reply (.ok (.value .none))))] ∧
      (h.afterAll steps).database.heldBy ⟨1, "a"⟩ = true ∧
      (((h.afterAll steps).reopen 1 "a").database.rowsFor ⟨0, "a"⟩).entries
        = [("k", .ofText "v")] := by
  intro h steps
  have hturn : h.AllInTurn steps := by
    refine ⟨.inr ?_, .inr ?_, .inr ?_, .inl rfl, trivial⟩
    · rintro _ ⟨⟩
    · rintro _ ⟨⟩
    · rintro _ ⟨⟩
      exact ⟨⟨1, "a"⟩, rfl, rfl⟩
  exact ⟨hturn, namespaces_apart _ steps hturn, rfl, rfl, rfl⟩

end Handles
end ThreatLedger
