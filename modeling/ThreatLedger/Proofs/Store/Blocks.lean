/-
  Steps of scripts on two stores.

  1. **Transcripts** — transcripts over stores of which one simulates the other simulate each other too,
     as long as the same answers are written down.
  2. **Steps** — so a step is answered as on the store that is simulated, by induction on the blocks in
     it (`tracks_step`).
  3. **Quiet calls** — a read, or the end of an invocation: what a store may be asked while somebody else
     has an invocation open.
  4. **On the reference store** — which steps change what is stored, and which leave an invocation open.
-/
import ThreatLedger.Proofs.Store.Agreement
import ThreatLedger.Proofs.Store.Invocations

open ThreatLedger.Action

namespace ThreatLedger.Script

/-! ## Transcripts -/

/-- Transcripts of the same answers, over related stores. -/
structure Transcript.Alike {σ τ : Type} (R : σ → τ → Prop) (a : Transcript σ) (b : Transcript τ) :
    Prop where
  store : R a.store b.store
  answers : a.answers = b.answers

section

variable {σ τ ε α : Type} [StoreFailure ε] {R : σ → τ → Prop}

theorem tracks_within {x : Action σ ε α} {y : Action τ ε α} (h : Tracks R Never x y) :
    Tracks (Transcript.Alike R) Never (Transcript.within x) (Transcript.within y) := by
  rintro ⟨s, answers⟩ ⟨t, _⟩ ⟨hst, rfl⟩
  have hm := h.matches hst
  exact .inl ⟨hm.result, hm.events, hm.store, rfl⟩

theorem tracks_record {x : Action σ ε Answer} {y : Action τ ε Answer} (h : Tracks R Never x y) :
    Tracks (Transcript.Alike R) Never (Transcript.record x) (Transcript.record y) := by
  refine tracks_bind (tracks_within h) fun answer => ?_
  rintro ⟨s, answers⟩ ⟨t, _⟩ ⟨hst, rfl⟩
  exact .inl ⟨rfl, rfl, hst, rfl⟩

theorem tracks_blockResult (failure : Option String) :
    Tracks (Transcript.Alike R) Never (blockResult failure) (blockResult failure) := by
  cases failure with
  | none => exact tracks_pure ()
  | some reason => exact tracks_fail _

/-- Stores that simulate each other do so with a transcript of the same calls, since each call is
answered alike and the answer is what is noted. -/
theorem simulates_transcript [Store σ] [Store τ] (h : Simulates R) :
    Simulates (Transcript.Alike R) where
  get key := tracks_within (h.get key)
  scan scan := tracks_within (h.scan scan)
  entry e := tracks_within (h.entry e)
  contents hst := h.contents hst.store
  put key value := tracks_within (h.put key value)
  delete key := tracks_within (h.delete key)
  begin := tracks_within h.begin
  commit := tracks_within h.commit
  rollback := tracks_within h.rollback

end

/-! ## Steps -/

/-- The error that ends a block, if one does. -/
def failureOf (result : Except StoreError Unit) : Option StoreError :=
  match result with
  | .ok () => none
  | .error e => some e

section

variable {σ : Type} [Store σ]

/-- The steps of a block and its own result: the body of an invocation. -/
def blockBody (steps : List Step) (keepsGoing : Bool) (failure : Option String) :
    Action (Transcript σ) StoreError Unit := do
  runSteps keepsGoing steps
  blockResult failure

/-- A call is answered as such, be it with an error. -/
theorem run_callStep (call : Call) (s : σ) :
    (Step.call call).run.run s =
      ⟨.ok (.reply (call.run.run s).result), (call.run.run s).store, (call.run.run s).events⟩ := by
  rw [Step.run, run_map, run_attempt]
  rfl

/-- A block is an invocation on a transcript that starts without answers. -/
theorem run_block (steps : List Step) (keepsGoing : Bool) (failure : Option String) (s : σ) :
    (Step.block steps keepsGoing failure).run.run s =
      let o := (atomically (blockBody steps keepsGoing failure)).run ⟨s, []⟩
      ⟨.ok (.block o.store.answers.reverse (failureOf o.result)), o.store.store, o.events⟩ := by
  rw [Step.run]
  rfl

end

section

variable {σ τ : Type} [Store σ] [Store τ] {R : σ → τ → Prop}

mutual

/-- **Steps.**  A step is answered as on the store that is simulated.  A block writes its answers down in
a transcript, and is an invocation there. -/
theorem tracks_step (h : Simulates R) : ∀ step : Step, Tracks R Never step.run step.run
  | .call call => by
    unfold Step.run
    exact tracks_map _ (tracks_attempt (tracks_call h call))
  | .block steps keepsGoing failure => by
    intro s t hst
    have hbody : Tracks (Transcript.Alike R) Never (blockBody steps keepsGoing failure)
        (blockBody steps keepsGoing failure) :=
      tracks_bind (tracks_runSteps h keepsGoing steps) fun _ => tracks_blockResult failure
    -- the transcripts of both sides are empty when the block begins
    have hstart : Transcript.Alike R ⟨s, []⟩ ⟨t, []⟩ := ⟨hst, rfl⟩
    have hm := ((simulates_transcript h).atomically hbody).matches hstart
    rw [run_block, run_block]
    refine .inl ⟨?_, hm.events, hm.store.store⟩
    dsimp only
    rw [hm.result, hm.store.answers]

/-- By mutual induction on steps and blocks: a script does the same on two stores that simulate each
other, to the same transcript. -/
theorem tracks_runSteps (h : Simulates R) (keepsGoing : Bool) : ∀ steps : List Step,
    Tracks (Transcript.Alike R) Never (runSteps keepsGoing steps) (runSteps keepsGoing steps)
  | [] => by
    unfold runSteps
    exact tracks_pure ()
  | step :: steps => by
    unfold runSteps
    refine tracks_bind (tracks_record (tracks_step h step)) fun answer => ?_
    cases answer.isError && !keepsGoing with
    | true => exact tracks_fail stopped
    | false => exact tracks_runSteps h keepsGoing steps

end

end

/-! ## Quiet calls -/

/-- Whether a call neither writes nor begins an invocation. -/
def Call.isQuiet : Call → Bool
  | .get _ | .scan _ | .commit | .rollback => true
  | .put _ _ | .delete _ | .begin => false

/-- Whether a step is a call that neither writes nor begins an invocation. -/
def Step.isQuiet : Step → Bool
  | .call c => c.isQuiet
  | .block .. => false

/-- Whether a step can change what is stored. -/
def Step.writes : Step → Bool
  | .call (.put _ _) | .call (.delete _) | .block .. => true
  | .call _ => false

/-- Whether a step ends an open invocation. -/
def Step.ends : Step → Bool
  | .call .commit | .call .rollback => true
  | .call _ | .block .. => false

/-- A quiet step is answered as on another store if reads are, and the ends of invocations. -/
theorem tracks_quiet {σ τ : Type} [Store σ] [Store τ] {R : σ → τ → Prop} (hreads : ReadsTrack R Never)
    (hcommit : Tracks R Never (Store.commit : Action σ StoreError Unit) Store.commit)
    (hrollback : Tracks R Never (Store.rollback : Action σ StoreError Unit) Store.rollback)
    {step : Step} (hquiet : step.isQuiet) : Tracks R Never step.run step.run := by
  cases step with
  | block steps keepsGoing failure => cases hquiet
  | call call =>
    unfold Step.run
    refine tracks_map _ (tracks_attempt ?_)
    cases call with
    | get key => exact tracks_map _ (hreads.get key)
    | scan range => exact tracks_scanned hreads range
    | commit => exact tracks_map _ hcommit
    | rollback => exact tracks_map _ hrollback
    | put key value => cases hquiet
    | delete key => cases hquiet
    | begin => cases hquiet

/-! ## On the reference store -/

section

variable {m kept : KeyMap Bytes} {space : Option String}

theorem answer_scan_snd (m : RevertibleMap) (range : Scan) : (m.answer (.scan range)).2 = m := by
  simp only [RevertibleMap.answer]
  split <;> rfl

/-- A call does to the store what it does to the map that the store is. -/
theorem store_call (m : RevertibleMap) (space : Option String) (call : Call) :
    ((Step.call call).run.run (m.shown space)).store = (m.answer call).2.shown space := by
  obtain ⟨events, hcall⟩ := run_call m space call
  rw [run_callStep, hcall]

theorem result_call (m : RevertibleMap) (space : Option String) (call : Call) :
    ((Step.call call).run.run (m.shown space)).result = .ok (.reply (m.answer call).1) := by
  obtain ⟨events, hcall⟩ := run_call m space call
  rw [run_callStep, hcall]

/-- Where no invocation is open, a quiet step changes nothing: a read has nothing to write, and an end
finds nothing to end. -/
theorem store_of_quiet {step : Step} (hquiet : step.isQuiet) :
    (step.run.run (⟨m, none, space⟩ : ReferenceStore)).store = ⟨m, none, space⟩ := by
  cases step with
  | block steps keepsGoing failure => cases hquiet
  | call call =>
    refine (store_call ⟨m, none⟩ space call).trans ?_
    cases call with
    | get key => rfl
    | scan range => exact congrArg (·.shown space) (answer_scan_snd _ range)
    | commit => rfl
    | rollback => rfl
    | put key value => cases hquiet
    | delete key => cases hquiet
    | begin => cases hquiet

/-- An open invocation stays open, over what was kept when it began, through every step that does not
end it: what begins another one, as a block does, is refused. -/
theorem store_of_open {step : Step} (hends : step.ends = false) :
    ∃ written, (step.run.run (⟨m, some kept, space⟩ : ReferenceStore)).store
        = ⟨written, some kept, space⟩ ∧ (step.writes = false → written = m) := by
  cases step with
  | block steps keepsGoing failure =>
    -- a block begins an invocation, and that is refused while one is open
    rw [run_block, atomically_run_unbegun rfl]
    exact ⟨m, rfl, fun _ => rfl⟩
  | call call =>
    have hstore := store_call ⟨m, some kept⟩ space call
    cases call with
    | get key => exact ⟨m, hstore, fun _ => rfl⟩
    | put key value => exact ⟨_, hstore, nofun⟩
    | delete key => exact ⟨_, hstore, nofun⟩
    | scan range =>
      exact ⟨m, hstore.trans (congrArg (·.shown space) (answer_scan_snd _ range)), fun _ => rfl⟩
    | begin => exact ⟨m, hstore, fun _ => rfl⟩
    | commit => cases hends
    | rollback => cases hends

/-- However it ends, an invocation leaves none open: nothing but an open invocation keeps it from
committing, or from going back. -/
theorem saved_of_atomically (x : Action (Transcript ReferenceStore) StoreError Unit) :
    ((atomically x).run ⟨⟨m, none, space⟩, []⟩).store.store.saved = none := by
  unfold atomically
  have hbegin : (Store.begin.lift : Action (Transcript ReferenceStore) StoreError Unit).run
      ⟨⟨m, none, space⟩, []⟩ = ⟨.ok (), ⟨⟨m, some m, space⟩, []⟩, []⟩ := rfl
  rw [store_bind (congrArg Outcome.result hbegin), hbegin,
    store_bind (congrArg Outcome.result (run_attempt _ _)), run_attempt]
  obtain ⟨result, ⟨⟨entries, saved, _⟩, answers⟩, events⟩ := x.run ⟨⟨m, some m, space⟩, []⟩
  rcases result with e | _ <;> cases saved <;> rfl

/-- A block on a store without an open invocation leaves none open, whatever its steps come to.  Its end
is a commit or a rollback, and neither is refused here. -/
theorem saved_of_block (steps : List Step) (keepsGoing : Bool) (failure : Option String) :
    ((Step.block steps keepsGoing failure).run.run (⟨m, none, space⟩ : ReferenceStore)).store.saved
      = none := by
  rw [run_block]
  exact saved_of_atomically _

end

end ThreatLedger.Script
