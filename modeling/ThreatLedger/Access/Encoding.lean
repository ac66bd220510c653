/-
  Roles and modes as JSON.

  1. **Roles** — a role is written as its name, and every text is the name of a role.
  2. **Modes** — a mode is written as the only member of an object.
-/
import ThreatLedger.Access.Rule
import ThreatLedger.Json.Printer
import ThreatLedger.Json.Typed

namespace ThreatLedger

/-- The text of a role. -/
def Role.encode (role : Role) : Bytes := (Json.Value.string role.name).encode

/-- The role that a text holds. -/
def Role.parse (s : String) : Except Json.Error Role :=
  (Json.whole Json.text (Bytes.ofText s)).map Role.ofName

/-- The text of a mode. -/
def Mode.encode (mode : Mode) : Bytes := (Json.Value.object [("mode", .string mode.name)]).encode

end ThreatLedger
