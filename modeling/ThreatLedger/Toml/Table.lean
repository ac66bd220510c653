/-
  What may be added to a TOML table.

  1. **Paths** — `changeAt` goes down a path of keys and makes the tables that are missing on the way.  On
     the way it enters tables, and the last one of a list of tables, but no table that was written inline;
     a dotted key enters no table that a header has opened either.
  2. **Headers** — a header opens a table that is missing or only implied; a header in double brackets
     adds a table to a list.
  3. **Pairs** — a key gets a value once; the table that a dotted key ends in has to come from dotted
     keys alone.
-/
import ThreatLedger.Toml.Value

namespace ThreatLedger.Toml

/-- A change to the members of a table of some origin. -/
abbrev Change := Origin → Members → Except Malformed Members

/-- Whether a path of a kind may enter a table of an origin. -/
def Origin.admits (origin : Origin) (dotted : Bool) : Bool :=
  match origin with
  | .header => !dotted
  | .implied | .dotted => true
  | .inline => false

/-- The origin of a table that a path makes on its way. -/
def Origin.onTheWay (dotted : Bool) : Origin := if dotted then .dotted else .implied

/-- Changes the members of the last table of a list. -/
def changeLast (f : Change) : List Value → Except Malformed (List Value)
  | [] => .error ⟨⟩
  | [.table origin members] => (f origin members).map fun ms => [.table origin ms]
  | [_] => .error ⟨⟩
  | v :: w :: vs => (changeLast f (w :: vs)).map (v :: ·)

/-- Changes the members of the table at the end of a path. -/
def changeAt (dotted : Bool) (f : Change) : List String → Change
  | [], origin, members => f origin members
  | key :: path, _, members =>
    match members.get? key with
    | none => do
      let origin := Origin.onTheWay dotted
      let inner ← changeAt dotted f path origin []
      .ok (members.put key (.table origin inner))
    | some (.table origin inner) =>
      if origin.admits dotted then do
        let inner ← changeAt dotted f path origin inner
        .ok (members.put key (.table origin inner))
      else .error ⟨⟩
    | some (.tables items) => do
      let items ← changeLast (changeAt dotted f path) items
      .ok (members.put key (.tables items))
    | some _ => .error ⟨⟩

/-! ## Headers -/

/-- Opens the table under a key. -/
def openTable (key : String) : Change := fun _ members =>
  match members.get? key with
  | none => .ok (members.put key (.table .header []))
  | some (.table .implied inner) => .ok (members.put key (.table .header inner))
  | some _ => .error ⟨⟩

/-- Adds a table to the list under a key. -/
def addTable (key : String) : Change := fun _ members =>
  match members.get? key with
  | none => .ok (members.put key (.tables [.table .header []]))
  | some (.tables items) => .ok (members.put key (.tables (items ++ [.table .header []])))
  | some _ => .error ⟨⟩

/-! ## Pairs -/

/-- Gives a key of a table its value; `direct` says that no dotted key led to the table. -/
def addPair (direct : Bool) (key : String) (v : Value) : Change := fun origin members =>
  if (origin == .dotted) = direct then .error ⟨⟩
  else
    match members.get? key with
    | none => .ok (members.put key v)
    | some _ => .error ⟨⟩

/-- Gives the key at the end of a path its value. -/
def addAt (path : List String) (key : String) (v : Value) : Change :=
  changeAt true (addPair path.isEmpty key v) path

end ThreatLedger.Toml
