/-
  Several handles on one database, and what those of one namespace have in common.

  1. **Runs** — a step runs a script step on the handle at a place, or closes that handle and opens
     another one in its place.  The journal of a run says what was done with which handle, and what it
     answered.
  2. **Turns** — a step is taken in turn if nothing is written or begun while another handle has an
     invocation open.
  3. **Model** — `Shared` is all that the handles of one namespace have in common: what is kept, and
     the rows of an open invocation with the place of its handle.  It knows of no other namespace.
  4. **Invocations in the model** — how one opens (`working_next`), what a handle makes of what is kept
     (`kept_next`), and what it leaves the others to see (`view_next`).
-/
import Mathlib.Tactic.Push
import ThreatLedger.Proofs.Store.Blocks
import ThreatLedger.Store.Handles

open ThreatLedger.Action

namespace ThreatLedger

open Script

/-! ## Runs -/

namespace Handles

/-- A step of a run. -/
inductive Step
  | use (place : Nat) (step : Script.Step)
  | reopen (place : Nat) (space : String)

/-- What is done with a handle: it runs a step of a script, or it is closed. -/
inductive Deed
  | ran (step : Script.Step)
  | closed

/-- Whether a deed ends an invocation that the handle has open. -/
def Deed.ends : Deed → Bool
  | .ran step => step.ends
  | .closed => true

namespace Step

/-- The place of the handle that a step is about. -/
def place : Step → Nat
  | use place _ | reopen place _ => place

/-- What a step does with that handle. -/
def deed : Step → Deed
  | use _ step => .ran step
  | reopen _ _ => .closed

theorem eq_use {step : Step} {s : Script.Step} (h : step.deed = .ran s) : step = use step.place s := by
  cases step <;> cases h
  rfl

end Step

/-- What was done with the handle at a place, of which namespace it was, and what it answered. -/
structure Visit where
  place : Nat
  space : String
  deed : Deed
  answer : Option (Except StoreError Answer)

/-- The handles after a step; where there is no handle nothing is run. -/
def after (h : Handles) : Step → Handles
  | .use place step =>
    match h.connections[place]? with
    | some c => ((use c step.run).run h).store
    | .none => h
  | .reopen place space => h.reopen place space

/-- What a handle answers to a deed. -/
def answerOf (h : Handles) (c : Connection) : Deed → Option (Except StoreError Answer)
  | .ran step => some ((use c step.run).run h).result
  | .closed => .none

/-- What a step does with a handle, if there is one at its place. -/
def visit (h : Handles) (step : Step) : Option Visit :=
  h.connections[step.place]?.map fun c => ⟨step.place, c.space, step.deed, h.answerOf c step.deed⟩

section

variable {h : Handles}

theorem after_use {place : Nat} {c : Connection} (hc : h.connections[place]? = some c)
    (step : Script.Step) : h.after (.use place step) = ((use c step.run).run h).store := by
  unfold after
  dsimp only
  rw [hc]

theorem after_use_absent {place : Nat} (hc : h.connections[place]? = .none) (step : Script.Step) :
    h.after (.use place step) = h := by
  unfold after
  dsimp only
  rw [hc]

theorem visit_at {step : Step} {c : Connection} (hc : h.connections[step.place]? = some c) :
    h.visit step = some ⟨step.place, c.space, step.deed, h.answerOf c step.deed⟩ := by
  unfold visit
  rw [hc]
  rfl

theorem visit_absent {step : Step} (hc : h.connections[step.place]? = .none) :
    h.visit step = .none := by
  unfold visit
  rw [hc]
  rfl

end

/-- The handles after a run. -/
def afterAll (h : Handles) (steps : List Step) : Handles := steps.foldl after h

/-- What was done in a run, step by step. -/
def journal (h : Handles) : List Step → List Visit
  | [] => []
  | step :: steps => (h.visit step).toList ++ (h.after step).journal steps

theorem afterAll_append (h : Handles) (steps later : List Step) :
    h.afterAll (steps ++ later) = (h.afterAll steps).afterAll later := List.foldl_append

/-! ## Turns -/

/-- A step is in turn if it writes and begins nothing, or no other handle has an invocation open. -/
def InTurn (h : Handles) : Step → Prop
  | .use place step => step.isQuiet ∨ ∀ invocation ∈ h.database.invocation,
    ∃ c ∈ h.connections[place]?, c.number = invocation.holder
  | .reopen _ _ => True

/-- All steps of a run are in turn. -/
def AllInTurn (h : Handles) : List Step → Prop
  | [] => True
  | step :: steps => h.InTurn step ∧ (h.after step).AllInTurn steps

/-- Steps are taken in turn exactly if the earlier ones are, and then the later ones from where those
lead. -/
theorem allInTurn_append (h : Handles) (steps later : List Step) :
    h.AllInTurn (steps ++ later) ↔ h.AllInTurn steps ∧ (h.afterAll steps).AllInTurn later := by
  induction steps generalizing h with
  | nil => exact ⟨fun hturn => ⟨trivial, hturn⟩, fun hturn => hturn.2⟩
  | cons step steps ih =>
    show h.InTurn step ∧ (h.after step).AllInTurn (steps ++ later) ↔ _
    rw [ih, ← and_assoc]
    rfl

end Handles

open Handles (Deed)

/-! ## Model -/

/-- What the handles of a namespace share: what is kept, and while one of them has an invocation open its
place and the rows that it sees. -/
structure Shared where
  kept : KeyMap Bytes
  working : Option (Nat × KeyMap Bytes)

namespace Shared

/-- Nothing is kept, and no invocation is open. -/
def empty : Shared := ⟨.empty, none⟩

/-- The store that the handle at a place sees. -/
def view (m : Shared) (space : String) (place : Nat) : ReferenceStore :=
  match m.working with
  | some (holder, rows) =>
    if holder = place then ⟨rows, some m.kept, some space⟩ else ⟨m.kept, none, some space⟩
  | none => ⟨m.kept, none, some space⟩

/-- What is shared when the handle at a place has left a store behind. -/
def left (place : Nat) (t : ReferenceStore) : Shared :=
  match t.saved with
  | some kept => ⟨kept, some (place, t.entries)⟩
  | none => ⟨t.entries, none⟩

/-- Whether a handle at another place has an invocation open. -/
def waits (m : Shared) (place : Nat) : Bool := m.working.any (·.1 ≠ place)

/-- What a deed of the handle at a place is answered. -/
def answer (m : Shared) (space : String) (place : Nat) :
    Deed → Option (Except StoreError Answer)
  | .ran step => some (step.run.run (m.view space place)).result
  | .closed => none

/-- What is shared after a deed of the handle at a place.  With a handle its invocation is gone. -/
def next (m : Shared) (space : String) (place : Nat) (deed : Deed) : Shared :=
  if m.waits place then m
  else
    match deed with
    | .ran step => left place (step.run.run (m.view space place)).store
    | .closed => ⟨m.kept, none⟩

section

variable {kept rows : KeyMap Bytes} {space : String} {place holder : Nat}

@[simp]
theorem view_free : (⟨kept, none⟩ : Shared).view space place = ⟨kept, none, some space⟩ := rfl

@[simp]
theorem view_own :
    (⟨kept, some (place, rows)⟩ : Shared).view space place = ⟨rows, some kept, some space⟩ := if_pos rfl

theorem view_other (h : holder ≠ place) :
    (⟨kept, some (holder, rows)⟩ : Shared).view space place = ⟨kept, none, some space⟩ := if_neg h

@[simp]
theorem waits_free : (⟨kept, none⟩ : Shared).waits place = false := rfl

@[simp]
theorem waits_own : (⟨kept, some (place, rows)⟩ : Shared).waits place = false := by simp [waits]

theorem waits_other (h : holder ≠ place) :
    (⟨kept, some (holder, rows)⟩ : Shared).waits place = true := by simp [waits, h]

variable {m : Shared}

theorem next_waits (h : m.waits place = true) (deed : Deed) : m.next space place deed = m := if_pos h

theorem next_ran (h : m.waits place = false) (step : Script.Step) :
    m.next space place (.ran step) = left place (step.run.run (m.view space place)).store :=
  if_neg (Bool.eq_false_iff.mp h)

theorem next_closed (h : m.waits place = false) : m.next space place .closed = ⟨m.kept, none⟩ :=
  if_neg (Bool.eq_false_iff.mp h)

/-- A handle that has no invocation open changes nothing by looking. -/
theorem next_of_quiet (h : m.view space place = ⟨m.kept, none, some space⟩) {step : Script.Step}
    (hquiet : step.isQuiet) : m.next space place (.ran step) = m := by
  obtain ⟨kept, _ | ⟨holder, rows⟩⟩ := m
  · rw [next_ran waits_free, view_free, store_of_quiet hquiet]
    rfl
  · refine next_waits (waits_other ?_) _
    rintro rfl
    exact Option.some_ne_none kept (congrArg ReferenceStore.saved (view_own.symm.trans h))

end

/-- What is shared after deeds of handles, each of them with its place. -/
def nextAll (m : Shared) (space : String) (deeds : List (Nat × Deed)) : Shared :=
  deeds.foldl (fun m d => m.next space d.1 d.2) m

/-- What deeds of handles are answered, one after another. -/
def answers (m : Shared) (space : String) :
    List (Nat × Deed) → List (Option (Except StoreError Answer))
  | [] => []
  | d :: deeds => m.answer space d.1 d.2 :: (m.next space d.1 d.2).answers space deeds

theorem nextAll_append (m : Shared) (space : String) (deeds later : List (Nat × Deed)) :
    m.nextAll space (deeds ++ later) = (m.nextAll space deeds).nextAll space later :=
  List.foldl_append

theorem answers_append (m : Shared) (space : String) (deeds later : List (Nat × Deed)) :
    m.answers space (deeds ++ later)
      = m.answers space deeds ++ (m.nextAll space deeds).answers space later := by
  induction deeds generalizing m with
  | nil => rfl
  | cons d deeds ih => exact congrArg _ (ih _)

/-! ### Invocations in the model -/

section

variable {kept rows : KeyMap Bytes} {space : String} {place other : Nat}

/-- Without an open invocation a call goes straight to what is kept, and a `begin` is the one call that
opens one. -/
theorem next_call (space : String) (place : Nat) (call : Call) :
    (⟨kept, none⟩ : Shared).next space place (.ran (.call call)) =
      left place (((⟨kept, none⟩ : RevertibleMap).answer call).2.shown (some space)) := by
  rw [next_ran waits_free, view_free]
  exact congrArg (left place) (store_call ⟨kept, none⟩ (some space) call)

/-- Inside the invocation of its own handle a call goes to what is worked on, over what is kept, and the
calls that end it decide which of the two stays. -/
theorem next_call_own (space : String) (place : Nat) (call : Call) :
    (⟨kept, some (place, rows)⟩ : Shared).next space place (.ran (.call call)) =
      left place (((⟨rows, some kept⟩ : RevertibleMap).answer call).2.shown (some space)) := by
  rw [next_ran waits_own, view_own]
  exact congrArg (left place) (store_call ⟨rows, some kept⟩ (some space) call)

/-- A block leaves no invocation open: the one that it begins it also ends, with a commit or a
rollback. -/
theorem next_block (space : String) (place : Nat) (steps : List Script.Step) (keepsGoing : Bool)
    (failure : Option String) :
    ∃ after, (⟨kept, none⟩ : Shared).next space place (.ran (.block steps keepsGoing failure))
      = ⟨after, none⟩ := by
  rw [next_ran waits_free, view_free]
  unfold left
  rw [saved_of_block]
  exact ⟨_, rfl⟩

/-- An open invocation goes on with everything that does not end it. -/
theorem next_own {step : Script.Step} (hends : step.ends = false) (space : String) (place : Nat) :
    ∃ written, (⟨kept, some (place, rows)⟩ : Shared).next space place (.ran step)
        = ⟨kept, some (place, written)⟩ ∧ (step.writes = false → written = rows) := by
  obtain ⟨written, hstore, hwrites⟩ := store_of_open hends
  refine ⟨written, ?_, hwrites⟩
  rw [next_ran waits_own, view_own, hstore]
  rfl

/-- After its end what was written is kept, or what was kept before.  Only a commit keeps what was
written. -/
theorem next_ended {deed : Deed} (hends : deed.ends) (space : String) (place : Nat) :
    ∃ after, (⟨kept, some (place, rows)⟩ : Shared).next space place deed = ⟨after, none⟩ ∧
      (deed ≠ .ran (.call .commit) → after = kept) := by
  cases deed with
  | closed => exact ⟨kept, next_closed waits_own, fun _ => rfl⟩
  | ran step =>
    cases step with
    | block steps keepsGoing failure => cases hends
    | call call =>
      cases call with
      | commit => exact ⟨rows, next_call_own space place .commit, fun hne => absurd rfl hne⟩
      | rollback => exact ⟨kept, next_call_own space place .rollback, fun _ => rfl⟩
      | get key => cases hends
      | put key value => cases hends
      | delete key => cases hends
      | scan range => cases hends
      | begin => cases hends

/-- **Invocations.**  An invocation that is open after a deed either has been begun by it, or was open
before and has not been ended.  What is kept is the same before and after. -/
theorem working_next {m : Shared} {deed : Deed}
    (h : (m.next space place deed).working = some (other, rows)) :
    (m.next space place deed).kept = m.kept ∧
      (m.working = none ∧ place = other ∧ deed = .ran (.call .begin) ∧
          m.answer space place deed = some (.ok (.reply (.ok .done))) ∨
        ∃ before, m.working = some (other, before) ∧ (place = other → deed.ends = false)) := by
  obtain ⟨kept, _ | ⟨holder, before⟩⟩ := m
  -- none is open: a block closes its own again, so only a begin leaves one open
  · cases deed with
    | closed =>
      rw [next_closed waits_free] at h
      cases h
    | ran step =>
      cases step with
      | block steps keepsGoing failure =>
        obtain ⟨after, hnext⟩ := next_block space place steps keepsGoing failure
        rw [hnext] at h
        cases h
      | call call =>
        rw [next_call] at h ⊢
        cases call with
        | begin =>
          cases h
          refine ⟨rfl, .inl ⟨rfl, rfl, rfl, ?_⟩⟩
          exact congrArg some (result_call ⟨kept, none⟩ (some space) .begin)
        | get key => cases h
        | put key value => cases h
        | delete key => cases h
        | scan range => rw [answer_scan_snd] at h; cases h
        | commit => cases h
        | rollback => cases h
  -- one is open: it goes on if its handle does not end it, and if another handle does anything
  · by_cases hplace : holder = place
    · subst hplace
      cases hends : deed.ends with
      | true =>
        obtain ⟨after, hnext, -⟩ := next_ended hends space holder
        rw [hnext] at h
        cases h
      | false =>
        cases deed with
        | closed => cases hends
        | ran step =>
          obtain ⟨written, hnext, -⟩ := next_own hends space holder
          rw [hnext] at h ⊢
          cases h
          exact ⟨rfl, .inr ⟨_, rfl, fun _ => rfl⟩⟩
    · rw [next_waits (waits_other hplace)] at h ⊢
      cases h
      exact ⟨rfl, .inr ⟨_, rfl, fun hsame => absurd hsame.symm hplace⟩⟩

/-- **Publishing.**  What is kept changes only if a handle writes outside an invocation, or commits. -/
theorem kept_next {m : Shared} {deed : Deed}
    (hfree : ∀ step, deed = .ran step → m.working = none → step.writes = false)
    (hown : ∀ rows, m.working = some (place, rows) → deed ≠ .ran (.call .commit)) :
    (m.next space place deed).kept = m.kept := by
  -- nobody has an invocation open, or somebody has: this place or another one
  obtain ⟨kept, _ | ⟨holder, rows⟩⟩ := m
  · cases deed with
    | closed => rw [next_closed waits_free]
    | ran step =>
      have hwrites := hfree step rfl rfl
      cases step with
      | block steps keepsGoing failure => cases hwrites
      | call call =>
        rw [next_call]
        cases call with
        | get key => rfl
        | scan range => rw [answer_scan_snd]; rfl
        | begin => rfl
        | commit => rfl
        | rollback => rfl
        | put key value => cases hwrites
        | delete key => cases hwrites
  · by_cases hplace : holder = place
    · subst hplace
      cases hends : deed.ends with
      | true =>
        obtain ⟨after, hnext, hafter⟩ := next_ended hends space holder
        rw [hnext]
        exact hafter (hown rows rfl)
      | false =>
        cases deed with
        | closed => cases hends
        | ran step =>
          obtain ⟨written, hnext, -⟩ := next_own hends space holder
          rw [hnext]
    · rw [next_waits (waits_other hplace)]

/-- A handle that has no invocation open sees what is kept, whoever else has one open in that
namespace. -/
theorem view_kept {m : Shared} (h : ∀ rows, m.working ≠ some (other, rows)) :
    m.view space other = ⟨m.kept, none, some space⟩ := by
  obtain ⟨kept, _ | ⟨holder, rows⟩⟩ := m
  · rfl
  · exact view_other fun hsame => h rows (hsame ▸ rfl)

/-- A handle that sees what is kept goes on seeing it while nothing else is kept, unless it writes. -/
theorem view_next {m : Shared} {deed : Deed} (hkept : (m.next space place deed).kept = m.kept)
    (hview : (m.view space other).entries = m.kept)
    (hreads : place = other → ∀ step, deed = .ran step → step.writes = false) :
    ((m.next space place deed).view space other).entries = m.kept := by
  by_cases hworking : ∀ rows, (m.next space place deed).working ≠ some (other, rows)
  · rw [view_kept hworking]
    exact hkept
  -- the handle has an invocation open now; it is one that has just begun, or the one from before
  push Not at hworking
  obtain ⟨rows, hworking⟩ := hworking
  obtain ⟨-, ⟨hfree, rfl, rfl, -⟩ | ⟨before, hopen, hends⟩⟩ := working_next hworking
  · obtain ⟨kept, _⟩ := m
    cases hfree
    rw [next_call]
    exact congrArg ReferenceStore.entries view_own
  · obtain ⟨kept, _⟩ := m
    cases hopen
    by_cases hplace : place = other
    · subst hplace
      cases deed with
      | closed => cases hends rfl
      | ran step =>
        obtain ⟨written, hnext, hwritten⟩ := next_own (hends rfl) space place
        rw [hnext, hwritten (hreads rfl step rfl)]
        exact hview
    · rw [next_waits (waits_other (Ne.symm hplace))]
      exact hview

end

end Shared

end ThreatLedger
