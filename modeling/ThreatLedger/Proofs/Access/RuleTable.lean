/-
  The table of rules, by the names of roles.

  1. **Table** — `MayRead`, `MayUpdate` and `Permits` have one constructor for each row of the
     table.  What no row permits is denied, to a name that is not recognized as to one that is.
  2. **Judgement** — the role of a name may do what the table permits that name (`may_ofName`), and
     a mode allows what `Mode.Allows` says.
-/
import Mathlib.Tactic.MkIffOfInductiveProp
import Mathlib.Tactic.FinCases
import ThreatLedger.Access.Caller

namespace ThreatLedger

/-! ## Table -/

/-- Who may see a record. -/
@[mk_iff mayRead_iff]
inductive MayRead (name : String) (record : Record) : Prop
  | head : name = "HeadOfOperations" → MayRead name record
  | special : name = "SpecialOperationsUnit" → MayRead name record
  | tactical : name = "TacticalUnit" → "TacticalUnit" ∈ record.access → MayRead name record
  | intelligence : name = "IntelligenceUnit" → record.sender = "IntelligenceUnit" →
    "IntelligenceUnit" ∈ record.access → MayRead name record

/-- Who may replace a stored record. -/
@[mk_iff mayUpdate_iff]
inductive MayUpdate (name : String) (stored : Record) : Prop
  | head : name = "HeadOfOperations" → MayUpdate name stored
  | special : name = "SpecialOperationsUnit" → stored.sender ≠ "HeadOfOperations" →
    MayUpdate name stored
  | intelligence : name = "IntelligenceUnit" → stored.sender = "IntelligenceUnit" →
    "IntelligenceUnit" ∈ stored.access → MayUpdate name stored

/-- Whoever may replace a record may see it: every row for updates has one for reads that asks for no
more. -/
theorem mayRead_of_mayUpdate {name : String} {stored : Record} (h : MayUpdate name stored) :
    MayRead name stored := by
  cases h with
  | head hname => exact .head hname
  | special hname _ => exact .special hname
  | intelligence hname hsender haccess => exact .intelligence hname hsender haccess

/-- Who may make a request. -/
inductive Permits (name : String) : Request → Prop
  | init : name = "HeadOfOperations" → Permits name .init
  | create : name ∈ ["HeadOfOperations", "IntelligenceUnit", "SpecialOperationsUnit"] →
    Permits name .create
  | read {record : Record} : MayRead name record → Permits name (.read record)
  | update {stored : Record} : MayUpdate name stored → Permits name (.update stored)
  | delete {uuid : String} : name = "HeadOfOperations" → Permits name (.delete uuid)
  | list :
    name ∈ ["HeadOfOperations", "SpecialOperationsUnit", "IntelligenceUnit", "TacticalUnit"] →
    Permits name .list

/-- What a mode allows a caller of a name: without enforcement, everything. -/
def Mode.Allows (mode : Mode) (name : String) (request : Request) : Prop :=
  match mode with
  | .rbac => Permits name request
  | .openAccess => True

/-! ## Judgement -/

namespace Role

/-- A name is that of a recognized role, or it is none of those names.  Each rule is compared with the
table along these cases. -/
theorem ofName_cases (name : String) :
    (∃ role ∈ recognized, ofName name = role ∧ name = role.name) ∨
      ofName name = .unrecognized name ∧ ∀ role ∈ recognized, name ≠ role.name := by
  unfold ofName
  cases h : recognized.find? (·.name = name) with
  | some role =>
    have hname : role.name = name := by simpa using List.find?_some h
    exact .inl ⟨role, List.mem_of_find?_eq_some h, rfl, hname.symm⟩
  | none =>
    refine .inr ⟨rfl, fun role hr he => ?_⟩
    simpa [he] using List.find?_eq_none.mp h role hr

/-- The model's rule for reading is the table's, whichever role a name belongs to, or none. -/
theorem mayRead_ofName (name : String) (record : Record) :
    (ofName name).mayRead record ↔ MayRead name record := by
  rw [mayRead_iff]
  rcases ofName_cases name with ⟨role, hr, hof, rfl⟩ | ⟨hof, hne⟩
  · rw [hof]
    fin_cases hr <;> simp [mayRead, name, Record.grants, Record.sentBy]
  · simp only [recognized, List.forall_mem_cons, Role.name] at hne
    simp [hof, mayRead, hne]

/-- The model's rule for updating is the table's, judged by the record that is stored. -/
theorem mayUpdate_ofName (name : String) (stored : Record) :
    (ofName name).mayUpdate stored ↔ MayUpdate name stored := by
  rw [mayUpdate_iff]
  rcases ofName_cases name with ⟨role, hr, hof, rfl⟩ | ⟨hof, hne⟩
  · rw [hof]
    fin_cases hr <;> simp [mayUpdate, name, Record.grants, Record.sentBy]
  · simp only [recognized, List.forall_mem_cons, Role.name] at hne
    simp [hof, mayUpdate, hne]

/-- A role that the rules know is given by its own name, and by no other one. -/
theorem ofName_eq_iff (name : String) {role : Role} (h : role.isRecognized) :
    ofName name = role ↔ name = role.name := by
  constructor
  · rintro rfl
    exact (name_ofName name).symm
  · rintro rfl
    exact ofName_name h

/-- What the rules know of a role is its name: a role is recognized exactly if that is in the list. -/
theorem isRecognized_ofName (name : String) :
    (ofName name).isRecognized ↔ name ∈ recognized.map Role.name := by
  rcases ofName_cases name with ⟨role, hr, hof, rfl⟩ | ⟨hof, hne⟩
  · rw [hof]
    exact iff_of_true (by fin_cases hr <;> rfl) (List.mem_map_of_mem hr)
  · rw [hof]
    refine iff_of_false Bool.false_ne_true fun h => ?_
    obtain ⟨role, hr, he⟩ := List.mem_map.mp h
    exact hne role hr he.symm

/-- **Rules.**  The role of a name may make the requests that the table permits that name, and no
others.  The cases are those of the requests. -/
theorem may_ofName (name : String) (request : Request) :
    (ofName name).may request ↔ Permits name request := by
  have head := ofName_eq_iff name (rfl : Role.headOfOperations.isRecognized = true)
  cases request with
  | init =>
    rw [may, beq_iff_eq, head]
    exact ⟨.init, fun | .init h => h⟩
  | create =>
    have special := ofName_eq_iff name (rfl : Role.specialOperationsUnit.isRecognized = true)
    have intelligence := ofName_eq_iff name (rfl : Role.intelligenceUnit.isRecognized = true)
    simp only [may, Bool.or_eq_true, beq_iff_eq, head, special, intelligence]
    constructor
    · intro h
      exact .create (by simp only [List.mem_cons, List.not_mem_nil, or_false]; tauto)
    · rintro (_ | h)
      simp only [List.mem_cons, List.not_mem_nil, or_false] at h
      tauto
  | read record => exact (mayRead_ofName name record).trans ⟨.read, fun | .read h => h⟩
  | update stored => exact (mayUpdate_ofName name stored).trans ⟨.update, fun | .update h => h⟩
  | delete uuid =>
    rw [may, beq_iff_eq, head]
    exact ⟨.delete, fun | .delete h => h⟩
  | list => exact (isRecognized_ofName name).trans ⟨.list, fun | .list h => h⟩

end Role

/-- A request is allowed to the role of a name if the mode allows it to the name: without enforcement
always, and otherwise if the table has a row for it. -/
theorem Mode.check_ofName (mode : Mode) (name : String) (request : Request) :
    mode.check (.ofName name) request = .allow ↔ mode.Allows name request := by
  cases mode with
  | openAccess => exact iff_of_true rfl trivial
  | rbac =>
    unfold check Allows
    rw [← Role.may_ofName]
    split <;> simp_all

/-- A record is shown to the role of a name if the mode allows that name to read it. -/
theorem Mode.canRead_ofName (mode : Mode) (name : String) (record : Record) :
    mode.canRead (.ofName name) record ↔ mode.Allows name (.read record) := by
  rw [← mode.check_ofName]
  unfold canRead
  cases mode.check (.ofName name) (.read record) with
  | allow => exact iff_of_true rfl rfl
  | deny denial => exact iff_of_false Bool.false_ne_true (by rintro ⟨⟩)

/-- Under enforcement that is for the table to say. -/
theorem Mode.canRead_rbac (name : String) (record : Record) :
    Mode.rbac.canRead (.ofName name) record ↔ MayRead name record :=
  (Mode.rbac.canRead_ofName name record).trans ⟨fun | .read h => h, .read⟩

instance (mode : Mode) (name : String) (request : Request) :
    Decidable (mode.Allows name request) :=
  decidable_of_iff _ (mode.check_ofName name request)

end ThreatLedger
