/-
  Several handles on one database.

  1. **Handles** — each handle is a connection of its own.  Numbers are never used twice, so that a
     reopened handle is a new connection.
  2. **Use** — `use` runs an action on the store that one handle sees.
  3. **Reopening** — `reopen` closes a handle, which loses an invocation that it holds, and opens another
     one in its place.
-/
import ThreatLedger.Store.Database

namespace ThreatLedger

/-- A database, the connections of its handles, and how many connections there have been. -/
structure Handles where
  database : Database
  connections : List Connection
  opened : Nat

namespace Handles

/-- A database without rows, and no handle. -/
def none : Handles := ⟨.empty, [], 0⟩

/-- Opens one more handle, on a namespace. -/
def openOn (h : Handles) (space : String) : Handles :=
  { h with connections := h.connections ++ [⟨h.opened, space⟩], opened := h.opened + 1 }

/-- A database without rows, and a handle on each namespace. -/
def fresh (spaces : List String) : Handles := spaces.foldl openOn none

/-- What a handle sees. -/
def view (h : Handles) (c : Connection) : DatabaseStore := ⟨h.database, c⟩

/-- Runs an action on what a handle sees. -/
def use {ε α : Type} (c : Connection) (x : Action DatabaseStore ε α) : Action Handles ε α := fun h =>
  let o := x (h.view c)
  ⟨o.result, { h with database := o.store.database }, o.events⟩

/-- Closes the handle at a position and opens one on a namespace in its place. -/
def reopen (h : Handles) (i : Nat) (space : String) : Handles :=
  let database :=
    match h.connections[i]? with
    | some c => h.database.close c
    | .none => h.database
  ⟨database, h.connections.set i ⟨h.opened, space⟩, h.opened + 1⟩

end Handles
end ThreatLedger
