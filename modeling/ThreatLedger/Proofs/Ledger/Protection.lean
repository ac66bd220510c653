/-
  What callers below the head of operations can never do.

  1. **Preservation** — entries preserve earlier ones if no key has disappeared and every record that
     the head of operations has sent is still there, byte for byte.
  2. **Steps** — what is granted to another name preserves the entries, and what is granted to a name
     that is no unit leaves them as they are (`step_preserves`).
  3. **Runs** — by induction, whatever is found at one moment of a run is preserved at every later one
     (`lower_roles_preserve`).

  A record that was rewritten on the way is judged by what it says by then: no sequence of updates
  leads to the record of the head, because each one of them is judged by the record that it replaces.
-/
import ThreatLedger.Proofs.Ledger.Mediation
import ThreatLedger.Proofs.Ledger.Refinement

namespace ThreatLedger.Ledger

/-! ## Preservation -/

/-- Bytes that hold a record of the head of operations. -/
def HeadSent (value : Bytes) : Prop :=
  ∃ record, Record.decode value = .ok record ∧ record.sender = "HeadOfOperations"

/-- No key of `m` is missing in `n`, and what the head of operations has sent is there as it was. -/
structure Preserves (m n : KeyMap Bytes) : Prop where
  keys : ∀ key, m.get? key ≠ none → n.get? key ≠ none
  head : ∀ key value, m.get? key = some value → HeadSent value → n.get? key = some value

section

variable {m n o : KeyMap Bytes} {key name : String}

theorem Preserves.refl (m : KeyMap Bytes) : Preserves m m := ⟨fun _ h => h, fun _ _ h _ => h⟩

theorem Preserves.trans (h : Preserves m n) (h' : Preserves n o) : Preserves m o where
  keys key hkey := h'.keys key (h.keys key hkey)
  head key value hvalue hsent := h'.head key value (h.head key value hvalue hsent) hsent

/-- Setting a key takes no key away, and does no harm where the head has sent nothing. -/
theorem SetsKey.preserves {value : Bytes} (hset : SetsKey m n key (some value))
    (hold : ∀ old, m.get? key = some old → ¬HeadSent old) : Preserves m n := by
  refine ⟨fun k hk => ?_, fun k old hk hsent => ?_⟩
  · rw [hset k]
    split
    · exact Option.some_ne_none value
    · exact hk
  · rw [hset k]
    split
    · -- the key that is set had nothing of the head's
      next he =>
      subst he
      exact absurd hsent (hold old hk)
    · exact hk

/-! ## Steps -/

/-- Nobody else may replace what the head has sent: the rows for updates ask for another sender, or for
the name of the head. -/
theorem not_headSent_of_mayUpdate {value : Bytes} {stored : Record} (hname : name ≠ "HeadOfOperations")
    (hdecode : Record.decode value = .ok stored) (hmay : MayUpdate name stored) :
    ¬HeadSent value := by
  rintro ⟨record, hrecord, hsender⟩
  have hsame : record = stored := Except.ok.inj (hrecord.symm.trans hdecode)
  subst hsame
  cases hmay with
  | head h => exact hname h
  | special _ h => exact h hsender
  | intelligence _ h _ => exact absurd (hsender.symm.trans h) (by decide)

/-- What is granted to another name than that of the head preserves the entries. -/
theorem Granted.preserves {command : Command} {reply : Reply} (h : Granted name m command reply n)
    (hname : name ≠ "HeadOfOperations") : Preserves m n := by
  induction h with
  | init hhead _ => exact absurd hhead hname
  -- the key was free
  | create _ hfree hset =>
    refine hset.preserves fun old hold => ?_
    rw [hfree] at hold
    cases hold
  -- the stored record was judged, and it may not be one that the head has sent
  | update hvalue hdecode hmay hset =>
    refine hset.preserves fun old hold => ?_
    rw [hvalue] at hold
    cases hold
    exact not_headSent_of_mayUpdate hname hdecode hmay
  | delete hhead _ _ => exact absurd hhead hname
  | createText _ _ ih => exact ih
  | updateText _ _ ih => exact ih
  | read _ _ _ => exact .refl m
  | list _ _ => exact .refl m

/-- The names to which some change of the entries may be granted. -/
def writers : List String := ["HeadOfOperations", "IntelligenceUnit", "SpecialOperationsUnit"]

/-- Only roles that may write at all may update, whatever is stored. -/
theorem mem_writers_of_mayUpdate {stored : Record} (h : MayUpdate name stored) : name ∈ writers := by
  cases h with
  | head h => exact h ▸ by decide
  | special h _ => exact h ▸ by decide
  | intelligence h _ _ => exact h ▸ by decide

/-- What is granted to any other name leaves the entries as they are. -/
theorem Granted.unchanged {command : Command} {reply : Reply} (h : Granted name m command reply n)
    (hname : name ∉ writers) : n = m := by
  induction h with
  | init hhead _ => exact absurd (hhead ▸ by decide) hname
  | create hwriter _ _ => exact absurd hwriter hname
  | update _ _ hmay _ => exact absurd (mem_writers_of_mayUpdate hmay) hname
  | delete hhead _ _ => exact absurd (hhead ▸ by decide) hname
  | createText _ _ ih => exact ih
  | updateText _ _ ih => exact ih
  | read _ _ _ => rfl
  | list _ _ => rfl

end

section

variable {σ : Type} [Store σ] [LawfulStore σ]

/-- **One step.**  A command of a caller who does not present the name of the head preserves what is
stored, and changes nothing if the caller presents the name of no writer. -/
theorem step_preserves {s : σ} {m : KeyMap Bytes} (hs : Holds s m) {caller : Caller}
    (hcaller : ¬Presents caller "HeadOfOperations") (command : Command) :
    ∃ n, Holds ((command.run ⟨caller, .rbac⟩).run s).store n ∧ Preserves m n ∧
      ((∀ name ∈ writers, ¬Presents caller name) → n = m) := by
  obtain ⟨-, hstore⟩ := run_answer hs ⟨caller, .rbac⟩ command
  refine ⟨_, hstore, ?_⟩
  -- a command that fails changes nothing, and one that is answered was granted
  cases hanswer : command.answer ⟨caller, .rbac⟩ m with
  | error e => exact ⟨.refl m, fun _ => rfl⟩
  | ok answer =>
    obtain ⟨reply, n⟩ := answer
    obtain ⟨name, hpresents, hgranted⟩ := answer_granted hanswer
    have hname : name ≠ "HeadOfOperations" := fun h => hcaller (h ▸ hpresents)
    exact ⟨hgranted.preserves hname,
      fun hnone => hgranted.unchanged fun hmem => hnone name hmem hpresents⟩

/-! ## Runs -/

/-- **Runs.**  By induction on the steps: the entries at every stage preserve those of the stages before
it, and are the same throughout if no step is one of a writer. -/
theorem stages_preserve {s : σ} {m : KeyMap Bytes} (hs : Holds s m)
    {steps : List (Caller × Command)}
    (hbelow : ∀ step ∈ steps, ¬Presents step.1 "HeadOfOperations") :
    ∃ later, List.Forall₂ Holds (stages s (enforced steps)) (m :: later) ∧
      (m :: later).Pairwise Preserves ∧
        ((∀ step ∈ steps, ∀ name ∈ writers, ¬Presents step.1 name) → ∀ n ∈ later, n = m) := by
  induction steps generalizing s m with
  | nil => exact ⟨[], .cons hs .nil, List.pairwise_singleton _ _, fun _ _ h => absurd h List.not_mem_nil⟩
  | cons step steps ih =>
    obtain ⟨hcaller, hbelow⟩ := List.forall_mem_cons.mp hbelow
    obtain ⟨n, hn, hpreserves, hunchanged⟩ := step_preserves hs hcaller step.2
    obtain ⟨later, hholds, hpairwise, hsame⟩ := ih hn hbelow
    refine ⟨n :: later, .cons hs hholds, List.pairwise_cons.mpr ⟨?_, hpairwise⟩, fun hnone => ?_⟩
    · -- what comes later preserves the next entries, which preserve these
      have hnext := (List.pairwise_cons.mp hpairwise).1
      exact List.forall_mem_cons.mpr ⟨hpreserves, fun o ho => hpreserves.trans (hnext o ho)⟩
    · obtain ⟨hnone, hnones⟩ := List.forall_mem_cons.mp hnone
      obtain rfl := hunchanged hnone
      exact List.forall_mem_cons.mpr ⟨rfl, hsame hnones⟩

/-- **Protection.**  Under enforcement, whatever a store holds: in a run of commands none of whose
callers presents the name of the head of operations, no key ever disappears, and what the head has
sent stays as it is, from any moment of the run to every later one.  If nobody presents the name of
another unit that may write, either, the store holds the same at every moment. -/
theorem lower_roles_preserve (s : σ) (m : KeyMap Bytes) (hs : Holds s m)
    (steps : List (Caller × Command))
    (hbelow : ∀ step ∈ steps, ¬Presents step.1 "HeadOfOperations") :
    ∃ moments, List.Forall₂ Holds (stages s (enforced steps)) moments ∧
      moments.head? = some m ∧ moments.Pairwise Preserves ∧
        ((∀ step ∈ steps, ¬Presents step.1 "IntelligenceUnit" ∧
            ¬Presents step.1 "SpecialOperationsUnit") → ∀ n ∈ moments, n = m) := by
  obtain ⟨later, hholds, hpairwise, hsame⟩ := stages_preserve hs hbelow
  refine ⟨m :: later, hholds, rfl, hpairwise, fun hnone => ?_⟩
  refine List.forall_mem_cons.mpr ⟨rfl, hsame fun step hstep => ?_⟩
  obtain ⟨hintelligence, hspecial⟩ := hnone step hstep
  exact List.forall_mem_cons.mpr
    ⟨hbelow step hstep, List.forall_mem_cons.mpr
      ⟨hintelligence, List.forall_mem_cons.mpr ⟨hspecial, by rintro _ ⟨⟩⟩⟩⟩

end

/-- A record that says that the head of operations has sent it, and grants a unit access. -/
def claimedRecord : Record :=
  { uuid := "7"
    description := "claimed"
    timestamp := "2023-10-01T12:00:00Z"
    sender := "HeadOfOperations"
    cid := "CID7"
    vaultKey := "vaultKey7"
    sha256 := "sha256hash7"
    access := ["IntelligenceUnit"] }

/-- A unit files that record in the name of the head.  By then it cannot take the record back, and
neither can the unit that is granted access, or somebody whom nobody can identify. -/
def claimingRun : List (Caller × Command) :=
  [(.ofRole "SpecialOperationsUnit", .create claimedRecord),
    (.ofRole "SpecialOperationsUnit", .update { claimedRecord with sender := "IntelligenceUnit" }),
    (.ofRole "IntelligenceUnit", .update { claimedRecord with sender := "IntelligenceUnit" }),
    (.failing "down", .delete "7")]

/-- The run begins with an empty store, in which the record then stays: neither unit may rewrite what is
filed in the name of the head, and whom nobody can identify may do nothing. -/
theorem claimingRun_preserves :
    (runAll MemoryStore.empty (enforced claimingRun)).1 =
        [.ok .done, .error (.forbidden .specialOperationsUnit .update "7"),
          .error (.forbidden .intelligenceUnit .update "7"), .error (.identity ⟨"down"⟩)] ∧
      ∃ moments, List.Forall₂ Holds (stages MemoryStore.empty (enforced claimingRun)) moments ∧
        moments.head? = some .empty ∧ moments.Pairwise Preserves := by
  have hs : Holds MemoryStore.empty .empty := (MemoryStore.holds_iff _ _).mpr rfl
  have hbelow : ∀ step ∈ claimingRun, ¬Presents step.1 "HeadOfOperations" := by decide
  obtain ⟨moments, hholds, hhead, hpairwise, -⟩ :=
    lower_roles_preserve MemoryStore.empty .empty hs claimingRun hbelow
  refine ⟨?_, moments, hholds, hhead, hpairwise⟩
  rw [(run_steps filed_empty hs _).1]
  rfl

end ThreatLedger.Ledger
