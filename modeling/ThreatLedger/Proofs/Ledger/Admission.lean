/-
  Who is admitted, by the table of rules.

  1. **Names** — `asking` is the name under which a session asks, or why it has none.
  2. **Admission** — a request is admitted if the mode allows it to that name (`admitted_eq`); under
     enforcement the name is the one the caller presents, and a row of the table permits it.
-/
import ThreatLedger.Proofs.Access.RuleTable
import ThreatLedger.Proofs.Ledger.Answers
import ThreatLedger.Proofs.Results

namespace ThreatLedger

namespace Ledger

/-! ## Names -/

/-- The name under which a session asks: without enforcement it stands for everybody, otherwise it
is the role attribute of the caller. -/
def asking (session : Session) : Except LedgerError String :=
  match session.mode with
  | .openAccess => .ok Role.anonymous.name
  | .rbac =>
    match session.caller.ask Role.attributeName with
    | .error failure => .error (.identity failure)
    | .ok none => .error .roleMissing
    | .ok (some name) => .ok name

/-- The role that is judged is the one of the name that is asked under.  Without enforcement both are
those of the anonymous caller. -/
theorem callerRole_eq (session : Session) :
    callerRole session = (asking session).map Role.ofName := by
  obtain ⟨caller, mode⟩ := session
  unfold callerRole asking Caller.role
  cases mode with
  | openAccess => rfl
  | rbac =>
    simp only [Mode.requiresIdentity, beq_self_eq_true, if_true]
    rcases caller.ask Role.attributeName with failure | _ | name <;> rfl

/-! ## Admission -/

/-- The error that answers a name for which a request is not allowed. -/
def denied (name : String) (request : Request) : LedgerError :=
  refusal ⟨.ofName name, request.operation, request.target⟩ request

/-- What the table does not allow is denied, with a denial that says who asked for what. -/
theorem check_of_not_allows {mode : Mode} {name : String} {request : Request}
    (h : ¬mode.Allows name request) :
    mode.check (.ofName name) request
      = .deny ⟨.ofName name, request.operation, request.target⟩ := by
  rw [← mode.check_ofName] at h
  unfold Mode.check at h ⊢
  cases mode with
  | openAccess => exact absurd rfl h
  | rbac =>
    simp only at h ⊢
    split
    · next hm => exact absurd (if_pos hm) h
    · rfl

/-- A request that the rules allow is admitted for the role of its caller. -/
theorem admitted_of_allow {session : Session} {request : Request} {role : Role}
    (hrole : callerRole session = .ok role) (h : session.mode.check role request = .allow) :
    admitted session request = .ok role := by
  unfold admitted
  rw [hrole]
  simp only [bind, Except.bind, h]

/-- A request that the rules deny is answered with the refusal of that denial. -/
theorem admitted_of_deny {session : Session} {request : Request} {role : Role} {denial : Denial}
    (hrole : callerRole session = .ok role) (h : session.mode.check role request = .deny denial) :
    admitted session request = .error (refusal denial request) := by
  unfold admitted
  rw [hrole]
  simp only [bind, Except.bind, h]

/-- **Admission.**  A request is admitted for the role of the name under which a session asks, if
the mode allows it to that name. -/
theorem admitted_eq (session : Session) (request : Request) :
    admitted session request = asking session >>= fun name =>
      if session.mode.Allows name request then .ok (.ofName name)
      else .error (denied name request) := by
  have hrole := callerRole_eq session
  cases hasking : asking session with
  | error e =>
    rw [hasking] at hrole
    unfold admitted
    rw [hrole]
    rfl
  | ok name =>
    rw [hasking] at hrole
    show _ = ite _ _ _
    by_cases h : session.mode.Allows name request
    · rw [if_pos h]
      exact admitted_of_allow hrole ((session.mode.check_ofName name request).mpr h)
    · rw [if_neg h]
      exact admitted_of_deny hrole (check_of_not_allows h)

/-- **Admission.**  A request is admitted exactly if its caller has a name to ask under and the table
allows it to that name. -/
theorem admitted_eq_ok {session : Session} {request : Request} {role : Role} :
    admitted session request = .ok role ↔
      ∃ name, asking session = .ok name ∧ role = .ofName name ∧ session.mode.Allows name request := by
  rw [admitted_eq, bind_eq_ok]
  apply exists_congr
  intro name
  apply and_congr_right
  intro _
  by_cases h : session.mode.Allows name request
  · rw [if_pos h]
    exact ⟨fun hrole => ⟨(Except.ok.inj hrole).symm, h⟩, fun hrole => congrArg _ hrole.1.symm⟩
  · rw [if_neg h]
    exact iff_of_false (by rintro ⟨⟩) fun hrole => h hrole.2

/-- Where a request is allowed to everybody to whom another one is, it is admitted if that one is. -/
theorem admitted_of_imp {session : Session} {request request' : Request} {role : Role}
    (himp : ∀ name, session.mode.Allows name request → session.mode.Allows name request')
    (h : admitted session request = .ok role) : admitted session request' = .ok role := by
  obtain ⟨name, hname, hrole, hallowed⟩ := admitted_eq_ok.mp h
  exact admitted_eq_ok.mpr ⟨name, hname, hrole, himp name hallowed⟩

/-- A caller has the role attribute `name`. -/
def Presents (caller : Caller) (name : String) : Prop :=
  caller.ask Role.attributeName = .ok (some name)

instance (caller : Caller) (name : String) : Decidable (Presents caller name) :=
  inferInstanceAs (Decidable (caller.ask Role.attributeName = .ok (some name)))

/-- Under enforcement the role that is judged is that of the name. -/
theorem callerRole_of_presents {caller : Caller} {name : String} (h : Presents caller name) :
    callerRole ⟨caller, .rbac⟩ = .ok (.ofName name) := by
  have hasking : asking ⟨caller, .rbac⟩ = .ok name := by
    simp only [asking]
    rw [h]
  rw [callerRole_eq, hasking]
  rfl

/-- Under enforcement, a request is only admitted if the table permits it to the name that the caller
presents.  A caller for whom the provider fails, or has no name, is admitted to nothing. -/
theorem permits_of_admitted {caller : Caller} {request : Request} {role : Role}
    (h : admitted ⟨caller, .rbac⟩ request = .ok role) :
    ∃ name, Presents caller name ∧ role = .ofName name ∧ Permits name request := by
  obtain ⟨name, hname, hrole, hallowed⟩ := admitted_eq_ok.mp h
  refine ⟨name, ?_, hrole, hallowed⟩
  unfold asking at hname
  simp only at hname
  split at hname
  · cases hname
  · cases hname
  · next found hask => exact hask.trans (by rw [Except.ok.inj hname])

end Ledger
end ThreatLedger
