/-
  The operations of the catalog as actions on every store.

  1. **Bodies** — storing an object is made of calls; looking one up and going through all of them
     are made of reads.
  2. **Commands** — on a store that simulates another one every command answers as it does there
     (`tracks_run`); under refusals every command endures (`endures_run`).
-/
import ThreatLedger.Proofs.Store.Invocations
import ThreatLedger.Stix.Catalog

open ThreatLedger.Action

namespace ThreatLedger.Stix.Catalog

/-! ## Bodies -/

theorem holds_reads (id : String) : MadeOfReads fun σ _ => holds (σ := σ) id := by
  intro _ _ _ _ _ _ h
  exact tracks_bind (tracks_lift (h.get id)) fun _ => tracks_pure _

/-- The body of `create` is made of calls: a look-up, and then a `put` if the id is free. -/
theorem storeNew_calls (kind : Kind) (o : Object) :
    MadeOfCalls fun σ _ => storeNew (σ := σ) kind o := by
  intro _ _ _ _ _ _ h
  refine tracks_bind (holds_reads o.id h.toReadsTrack) fun found => ?_
  have rest := tracks_bind (tracks_lift (ε := LedgerError) (h.put o.id o.encode)) fun _ =>
    tracks_report (.objectStored kind o.id)
  cases found with
  | true => exact tracks_bind (tracks_fail _) fun _ => rest
  | false => exact rest

theorem read_reads (kind : Kind) (id : String) : MadeOfReads fun σ _ => read (σ := σ) kind id := by
  intro _ _ _ _ _ _ h
  refine tracks_bind (tracks_lift (h.get id)) fun found => ?_
  cases found with
  | none => exact tracks_fail _
  | some value => exact tracks_ofExcept _

/-- By induction on the entries: taking them out of a page is made of reads. -/
theorem decodeEntries_reads (es : List Entry) :
    MadeOfReads fun σ _ => decodeEntries (σ := σ) es := by
  intro _ _ _ _ _ _ h
  induction es with
  | nil => exact tracks_pure _
  | cons e es ih =>
    refine tracks_bind (tracks_lift (h.entry e)) fun e => ?_
    exact tracks_bind (tracks_ofExcept _) fun value => tracks_bind ih fun values => tracks_pure _

/-- By induction on the pages that may follow: going through a store is made of reads, one scan for each
page and the entries of it. -/
theorem allFrom_reads (more : Nat) (bookmark : String) :
    MadeOfReads fun σ _ => allFrom (σ := σ) more bookmark := by
  intro _ _ _ _ _ _ h
  induction more generalizing bookmark with
  | zero =>
    refine tracks_bind (tracks_lift (h.scan _)) fun page => ?_
    refine tracks_bind (decodeEntries_reads page.entries h) fun values => ?_
    split <;> exact tracks_pure _
  | succ more ih =>
    refine tracks_bind (tracks_lift (h.scan _)) fun page => ?_
    refine tracks_bind (decodeEntries_reads page.entries h) fun values => ?_
    -- whether a page more is taken depends on the bookmark, which is the same on both sides
    split
    · exact tracks_pure _
    · exact tracks_bind (ih page.bookmark) fun _ => tracks_pure _

theorem all_run {σ : Type} [Store σ] (s : σ) :
    (all : Action σ LedgerError _).run s = (allFrom (Store.contents s).length "").run s := rfl

/-- Going through a whole store is made of reads.  How many pages that takes depends on what the store
holds, and that is the same on both sides. -/
theorem all_reads : MadeOfReads fun σ _ => all (σ := σ) := by
  intro _ _ _ _ _ _ h s t hst
  show (Action.run all s).Matches _ (Action.run all t) ∨ (Action.run all s).Strays _
  rw [all_run, all_run, h.contents hst]
  exact allFrom_reads _ "" h s t hst

/-! ## Commands -/

section

variable {σ τ : Type} [Store σ] [Store τ] {R : σ → τ → Prop}

/-- Creating an object does the same on two stores that simulate each other. -/
theorem tracks_create (h : Simulates R) (kind : Kind) (text : String) :
    Tracks R Never (create kind text) (create kind text) := by
  refine tracks_bind (tracks_ofExcept _) fun o => ?_
  exact tracks_bind (h.atomically (storeNew_calls kind o h.toCallsTrack)) fun _ => tracks_pure o

/-- **Simulation.**  A command answers as it does on the store that is simulated.  Creates are
invocations whose bodies are made of calls, and all other commands are made of reads. -/
theorem tracks_run (h : Simulates R) (command : Command) :
    Tracks R Never command.run command.run := by
  have reads := h.toReadsTrack
  cases command with
  | create kind text => exact tracks_map _ (tracks_create h kind text)
  | read kind id => exact tracks_map _ (read_reads kind id reads)
  | holds id => exact tracks_map _ (holds_reads id reads)
  | all => exact tracks_map _ (all_reads reads)

end

/-- **Endurance.**  Under refusals that let invocations end, a command answers as without faults, or
fails with an error of the store and changes nothing. -/
theorem endures_run (command : Command) : Endures command.run command.run := by
  cases command with
  | create kind text =>
    refine endures_map _ (endures_ofExcept fun o => ?_)
    exact endures_map (fun _ => o) (endures_atomically (storeNew_calls kind o))
  | read kind id => exact endures_map _ (endures_reads (read_reads kind id))
  | holds id => exact endures_map _ (endures_reads (holds_reads id))
  | all => exact endures_map _ (endures_reads all_reads)

end ThreatLedger.Stix.Catalog
