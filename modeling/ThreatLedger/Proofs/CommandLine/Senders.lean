/-
  Who a record is sent by when `create` is not told.

  1. **Callers** — the role that a configured caller presents is looked up in three places: the one that
     is given, the configured one, and the one among the attributes (`roleText_caller`).
  2. **Senders** — the sender is looked up in the first two places only.  So it is the role of the caller
     unless nothing but an attribute says which role that is (`senderRole_eq_iff`).
  3. **Runs** — a record without a sender is not complete, and no run stores it: the sender of what a run
     stores is the role of the caller in every case (`default_sender`).
-/
import ThreatLedger.CommandLine.Run
import ThreatLedger.Proofs.Ledger.RequiredFields

namespace ThreatLedger

/-! ## Callers -/

/-- The text of the role that a caller presents; empty if it presents none. -/
def Caller.roleText (caller : Caller) : String :=
  match caller.role with
  | .ok (some role) => role.name
  | .ok none | .error _ => ""

/-- A known caller acts under the `role` attribute; without one there is no role, which is the empty
text. -/
theorem Caller.roleText_known (attributes : Attributes) :
    (Caller.known attributes).roleText = (attributes.get? Role.attributeName).getD "" := by
  simp only [roleText, role, ask, Except.map]
  cases attributes.get? Role.attributeName with
  | none => rfl
  | some name => exact Role.name_ofName name

namespace Config

/-- The role that stands among the configured attributes. -/
def attributeRole (c : Config) : Option String :=
  (Attributes.ofPairs c.identity.attributes).get? Role.attributeName

/-- **The caller's role** is found in three places: the one that is given, the one of the configuration,
and the attribute of that name. -/
theorem roleText_caller (c : Config) (role : Option String) :
    (c.caller role).roleText = ((c.senderRole role).or c.attributeRole).getD "" := by
  unfold caller senderRole
  cases role <|> c.identity.role with
  | none => exact Caller.roleText_known _
  | some name =>
    refine (Caller.roleText_known _).trans ?_
    rw [Attributes.get?_set, if_pos rfl]
    rfl

/-! ## Senders -/

/-- The sender is the role of the caller, unless only an attribute says which role that is. -/
theorem senderRole_eq_iff (c : Config) (role : Option String) :
    (c.senderRole role).getD "" = (c.caller role).roleText ↔
      (c.senderRole role).isSome ∨ c.attributeRole.getD "" = "" := by
  rw [roleText_caller]
  cases c.senderRole role with
  | none =>
    rw [Option.none_or, Option.getD_none, Option.isSome_none, eq_comm]
    exact ⟨.inr, fun h => h.resolve_left Bool.false_ne_true⟩
  | some name => exact iff_of_true rfl (.inl rfl)

/-- A default sender that is not empty is the caller's role, since both are looked for in the same first
places. -/
theorem senderRole_eq_of_ne {c : Config} {role : Option String}
    (h : (c.senderRole role).getD "" ≠ "") :
    (c.senderRole role).getD "" = (c.caller role).roleText := by
  refine (c.senderRole_eq_iff role).mpr (.inl ?_)
  cases hsender : c.senderRole role with
  | none => exact absurd (congrArg (Option.getD · "") hsender) h
  | some name => rfl

end Config

namespace CommandLine

open Ledger

/-- The sender of a record that is given by options is the one among them, or else the default.  The
JSON form takes its own instead. -/
theorem CreateOptions.record_sender {o : CreateOptions} (hjson : o.json = none)
    (sender : Option String) (generated : Generated) (tree : Tree) :
    (o.record sender generated tree).map Record.sender
      = (o.digest tree).map fun _ => (o.sender <|> sender).getD "" := by
  unfold record
  rw [hjson]
  cases o.digest tree <;> rfl

/-! ## Runs -/

/-- Under enforcement the role that is judged is the one that the caller presents. -/
theorem roleText_of_callerRole {caller : Caller} {mode : Mode} {role : Role} (hmode : mode = .rbac)
    (h : callerRole ⟨caller, mode⟩ = .ok role) : caller.roleText = role.name := by
  subst hmode
  simp only [callerRole, Mode.requiresIdentity, beq_self_eq_true, if_true] at h
  unfold Caller.roleText
  split at h
  · cases h
  · cases h
  · next found hfound =>
    rw [hfound, ← Except.ok.inj h]

/-- A record that passes validation has a sender: that is one of the required fields. -/
theorem sender_ne_of_validate {record : Record} (h : validate record = .ok ()) :
    record.sender ≠ "" :=
  (validate_eq_ok_iff record).mp h ("SenderIdentity", record.sender) (by simp [Record.requiredFields])

section

variable {σ : Type} [Store σ] {session : Session} {s : σ} {out : Bytes}

/-- What is created is complete, and the caller has been judged, since the answer of an invocation is
that of its body and the body begins with a judgement. -/
theorem judged_of_creation {record : Record}
    (h : ((creation session record).run s).result = .ok out) :
    validate record = .ok () ∧ (∃ role, callerRole session = .ok role) ∧
      out = textLine ("CTI UUID: " ++ record.uuid) := by
  obtain ⟨_, hcreate, hout⟩ := Action.result_bind.mp h
  obtain ⟨_, hvalidate, hstore⟩ := Action.result_bind.mp hcreate
  obtain ⟨_, hstore⟩ := result_of_atomically hstore
  obtain ⟨_, hjudge, -⟩ := Action.result_bind.mp hstore
  obtain ⟨role, hrole, -⟩ := Action.result_bind.mp hjudge
  exact ⟨hvalidate, ⟨role, hrole⟩, (Except.ok.inj hout).symm⟩

/-- **Inversion.**  If `create` answers with an id, the record was made of the options, it is complete,
and its creator has a role. -/
theorem judged_of_work {o : CreateOptions} {sender : Option String} {generated : Generated}
    {tree : Tree}
    (h : (((Command.create o).work session sender generated tree).run s).result = .ok out) :
    ∃ record, o.record sender generated tree = .ok record ∧ validate record = .ok () ∧
      (∃ role, callerRole session = .ok role) ∧ out = textLine ("CTI UUID: " ++ record.uuid) := by
  obtain ⟨record, hrecord, hcreation⟩ := Action.result_bind.mp h
  exact ⟨record, hrecord, judged_of_creation (mapError_eq_ok.mp hcreation)⟩

end

/-- **Inversion of a run.**  A run of `create` that succeeds has submitted the record of its options,
and the caller of its configuration has been judged.  Every other way out of a run is an error, so the
branches close one after the other. -/
theorem judged_of_run {inv : Invocation} {env : Environment} {generated : Generated} {tree : Tree}
    {o : CreateOptions} {out : Bytes} (hcommand : inv.command = .create o)
    (h : (inv.run env generated tree).result = .ok out) :
    ∃ c later record, inv.configuration tree = .ok c ∧
      o.record (c.senderRole inv.role) generated later = .ok record ∧
      validate record = .ok () ∧ (∃ role, callerRole ⟨c.caller inv.role, c.mode⟩ = .ok role) ∧
      out = textLine ("CTI UUID: " ++ record.uuid) := by
  unfold Invocation.run at h
  split at h
  · cases h
  · next c hc =>
    dsimp only at h
    split at h
    · cases h
    · split at h
      · cases h
      · next later opened _ =>
        refine ⟨c, later, ?_⟩
        -- the store is opened for writing or for reading only, and both do the same work on it
        simp only [runOn, hcommand] at h
        split at h
        · obtain ⟨record, hrecord⟩ := judged_of_work h
          exact ⟨record, hc, hrecord⟩
        · rw [ReadOnlyStore.run_within] at h
          obtain ⟨record, hrecord⟩ := judged_of_work h
          exact ⟨record, hc, hrecord⟩

/-- **Default sender.**  Where neither a sender nor a document is given, the sender of a record is the
role that is given or configured, and empty if there is neither.  This is the text of the role that the
caller of the same configuration presents, unless that role stands among the attributes alone and is not
empty.  In such a record the sender is missing: whatever a run creates has for its sender the role that
its caller presents, and under enforcement that is the role which has been judged. -/
theorem default_sender {o : CreateOptions} (hjson : o.json = none) (hsender : o.sender = none) :
    (∀ (c : Config) (role : Option String) (generated : Generated) (tree : Tree),
      (o.record (c.senderRole role) generated tree).map Record.sender
        = (o.digest tree).map (fun _ => (c.senderRole role).getD "") ∧
      ((c.senderRole role).getD "" = (c.caller role).roleText ↔
        (c.senderRole role).isSome ∨ c.attributeRole.getD "" = "")) ∧
    ∀ (inv : Invocation) (env : Environment) (generated : Generated) (tree : Tree) (out : Bytes),
      inv.command = .create o → (inv.run env generated tree).result = .ok out →
      ∃ c later record, inv.configuration tree = .ok c ∧
        o.record (c.senderRole inv.role) generated later = .ok record ∧
        out = textLine ("CTI UUID: " ++ record.uuid) ∧
        record.sender ≠ "" ∧ record.sender = (c.caller inv.role).roleText ∧
        (c.mode = .rbac →
          ∃ role, callerRole ⟨c.caller inv.role, c.mode⟩ = .ok role ∧ record.sender = role.name) := by
  have hdefault : ∀ (c : Config) (role : Option String) (generated : Generated) (tree : Tree),
      (o.record (c.senderRole role) generated tree).map Record.sender
        = (o.digest tree).map fun _ => (c.senderRole role).getD "" := by
    intro c role generated tree
    rw [o.record_sender hjson, hsender]
    rfl
  -- the first part needs no run, and the second one reads it off the run that it inverts
  refine ⟨fun c role generated tree => ⟨hdefault c role generated tree, c.senderRole_eq_iff role⟩, ?_⟩
  intro inv env generated tree out hcommand hrun
  obtain ⟨c, later, record, hc, hrecord, hvalidate, ⟨role, hrole⟩, hout⟩ := judged_of_run hcommand hrun
  have hfilled := sender_ne_of_validate hvalidate
  have hsent : record.sender = (c.senderRole inv.role).getD "" := by
    have hmap := hdefault c inv.role generated later
    rw [hrecord] at hmap
    obtain ⟨_, -, hsent⟩ := map_eq_ok.mp hmap.symm
    exact hsent.symm
  have hroleText : record.sender = (c.caller inv.role).roleText := by
    rw [hsent] at hfilled ⊢
    exact Config.senderRole_eq_of_ne hfilled
  refine ⟨c, later, record, hc, hrecord, hout, hfilled, hroleText, fun hmode => ⟨role, hrole, ?_⟩⟩
  rw [hroleText, roleText_of_callerRole hmode hrole]

/-- A configuration whose only role stands among the attributes. -/
def attributeText : String := "[identity.attributes]\nrole = \"HeadOfOperations\"\n"

/-- What it says. -/
def attributeConfig : Config :=
  { Config.empty with identity := ⟨none, [(Role.attributeName, "HeadOfOperations")]⟩ }

theorem parse_attributeText : Config.parse attributeText = some attributeConfig := by decide +kernel

/-- Options of a record that is complete but for its sender. -/
def unsentOptions : CreateOptions where
  json := none
  uuid := some "u"
  description := "d"
  timestamp := some "t"
  sender := none
  cid := "c"
  vaultKey := "k"
  sha256 := "h"
  file := none
  access := []

/-- A working directory with this configuration. -/
def attributeTree : Tree :=
  Tree.place KeyMap.empty [defaultConfig] (.file (Bytes.ofText attributeText))

/-- Without a role that is given, nobody is the sender; with one, the run succeeds, and its caller has
been judged as the sender. -/
theorem given_role_sends :
    (attributeConfig.senderRole none).getD "" ≠ (attributeConfig.caller none).roleText ∧
      ∃ record : Record, record.sender = "IntelligenceUnit" ∧
        ∃ role, callerRole ⟨attributeConfig.caller (some "IntelligenceUnit"), .rbac⟩ = .ok role ∧
          record.sender = role.name := by
  obtain ⟨hdefault, hruns⟩ := default_sender (o := unsentOptions) rfl rfl
  constructor
  · obtain ⟨-, hiff⟩ := hdefault attributeConfig none ⟨"", ""⟩ KeyMap.empty
    rw [ne_eq, hiff]
    decide
  · obtain ⟨c, later, record, hc, hrecord, -, -, -, hjudged⟩ :=
      hruns ⟨none, some "IntelligenceUnit", 0, .create unsentOptions⟩ ⟨none, none⟩ ⟨"", ""⟩
        attributeTree (textLine "CTI UUID: u") rfl (by decide +kernel)
    -- the configuration is the one of the tree, which the run has to have read
    have hconfig : c = attributeConfig := by
      have hfound : Invocation.configuration
          ⟨none, some "IntelligenceUnit", 0, .create unsentOptions⟩ attributeTree
            = .ok attributeConfig := by decide +kernel
      exact Except.ok.inj (hc.symm.trans hfound)
    subst hconfig
    refine ⟨record, ?_, hjudged rfl⟩
    rw [← Except.ok.inj hrecord]
    rfl

/-- The role of a caller that stands among the attributes alone is not the sender. -/
theorem attribute_role_not_sent :
    ¬∀ (text : String) (c : Config) (role : Option String) (o : CreateOptions)
      (generated : Generated) (tree : Tree) (record : Record),
      Config.parse text = some c → o.json = none → o.sender = none →
      o.record (c.senderRole role) generated tree = .ok record →
      record.sender = (c.caller role).roleText := by
  intro h
  have hsent := h attributeText attributeConfig none unsentOptions ⟨"", ""⟩ KeyMap.empty _
    parse_attributeText rfl rfl rfl
  exact absurd hsent (by decide)

end CommandLine
end ThreatLedger
