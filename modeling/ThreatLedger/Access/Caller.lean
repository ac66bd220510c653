/-
  Who calls: the attributes that a caller presents.

  1. **Attributes** — a list of names and values in which each name stands once; setting a name again
     replaces its value.
  2. **Callers** — a caller has attributes, or its provider fails every question.
  3. **Sessions** — a caller under a mode, and the role that the rules judge.
-/
import ThreatLedger.Access.Rule

namespace ThreatLedger

/-- The attributes of a caller: names with values. -/
abbrev Attributes := List (String × String)

namespace Attributes

/-- Sets an attribute, in the place of an earlier one of its name. -/
def set (attributes : Attributes) (name value : String) : Attributes :=
  attributes.filter (·.1 ≠ name) ++ [(name, value)]

/-- What setting attributes one after another leaves. -/
def ofPairs (pairs : List (String × String)) : Attributes :=
  pairs.foldl (fun attributes a => attributes.set a.1 a.2) []

/-- The value of an attribute. -/
def get? (attributes : Attributes) (name : String) : Option String :=
  (attributes.find? (·.1 = name)).map (·.2)

/-- Setting an attribute gives it its value and leaves the others as they are, whether it had a value
before or not. -/
theorem get?_set (attributes : Attributes) (name value other : String) :
    (attributes.set name value).get? other
      = if other = name then some value else attributes.get? other := by
  induction attributes with
  | nil =>
    by_cases h : other = name
    · simp [set, get?, h]
    · simp [set, get?, h, Ne.symm h]
  | cons a as ih =>
    simp only [set, get?] at ih ⊢
    by_cases ha : a.1 = name <;> by_cases h : other = name <;> by_cases hb : a.1 = other
    all_goals simp_all

end Attributes

/-- Who calls. -/
inductive Caller
  | known (attributes : Attributes)
  | failing (reason : String)
  deriving DecidableEq, Repr

/-- A provider that could not answer, and why. -/
structure IdentityFailure where
  reason : String
  deriving DecidableEq, Repr

/-- The message of a provider that could not answer. -/
def IdentityFailure.message (f : IdentityFailure) : String :=
  "failed to get client attribute: " ++ f.reason

namespace Caller

/-- Asks for an attribute. -/
def ask (caller : Caller) (name : String) : Except IdentityFailure (Option String) :=
  match caller with
  | .known attributes => .ok (attributes.get? name)
  | .failing reason => .error ⟨reason⟩

/-- The role that a caller presents. -/
def role (caller : Caller) : Except IdentityFailure (Option Role) :=
  (caller.ask Role.attributeName).map (·.map Role.ofName)

/-- The caller with a role and no other attribute. -/
def ofRole (name : String) : Caller := .known [(Role.attributeName, name)]

end Caller

/-- A caller under a mode. -/
structure Session where
  caller : Caller
  mode : Mode
  deriving DecidableEq, Repr

/-- The role that stands for everybody where nobody is identified. -/
def Role.anonymous : Role := .unrecognized "anonymous"

end ThreatLedger
