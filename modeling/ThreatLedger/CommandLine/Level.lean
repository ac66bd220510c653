/-
  The grammar of the command line: levels, and what each of them takes.

  1. **Levels** — the top level, and one for each subcommand.  `Level.subcommands` leads from a level to
     those below it.
  2. **Switches** — each has a long name and may have a letter.  Some only mark, some take a value; the
     shared ones belong to every level.
  3. **Operands** — values without a switch, in order, all of them required.
-/
import ThreatLedger.Stix.Kind

namespace ThreatLedger.CommandLine

/-! ## Switches -/

/-- What a switch does: it stops with help or the version, marks, counts, takes one value, or takes a
value each time. -/
inductive Effect
  | help
  | version
  | mark
  | count
  | single
  | many
  deriving DecidableEq, Repr

/-- A switch, and the values that it accepts. -/
structure Switch where
  letter : Option Char
  name : String
  effect : Effect
  accepts : String → Bool

/-- Whether a switch takes a value. -/
def Switch.takesValue (s : Switch) : Bool := s.effect == .single || s.effect == .many

/-- Whether a switch may occur once only. -/
def Switch.isUnique (s : Switch) : Bool := s.effect == .single || s.effect == .mark

/-- An operand, and the values that it accepts. -/
structure Operand where
  name : String
  accepts : String → Bool

/-! ## Values -/

/-- Any value. -/
def anyValue (_ : String) : Bool := true

/-- Any value but the empty one. -/
def filledValue (s : String) : Bool := !s.isEmpty

/-- The natural that decimal digits write. -/
def digitsValue? (cs : List Char) : Option Nat :=
  if cs.isEmpty || !cs.all Char.isDigit then none
  else some (cs.foldl (fun n c => n * 10 + (c.toNat - '0'.toNat)) 0)

/-- The integer of 32 bits that a value writes, with or without a sign. -/
def integer32? (s : String) : Option Int :=
  let signed : Option Int :=
    match s.toList with
    | '-' :: cs => (digitsValue? cs).map fun n => -(n : Int)
    | '+' :: cs => (digitsValue? cs).map fun n => (n : Int)
    | cs => (digitsValue? cs).map fun n => (n : Int)
  signed.filter fun n => Int32.minValue.toInt ≤ n && n ≤ Int32.maxValue.toInt

/-! ## Levels -/

/-- A level of the command line. -/
inductive Level
  | top
  | init
  | create
  | read
  | update
  | delete
  | list
  | stix
  | stixCreate
  | stixRead
  | stixList
  deriving DecidableEq, Repr

namespace Level

/-- The levels below a level, by name. -/
def subcommands : Level → List (String × Level)
  | .top =>
    [("init", .init), ("create", .create), ("read", .read), ("update", .update), ("delete", .delete),
      ("list", .list), ("stix", .stix)]
  | .stix => [("create", .stixCreate), ("read", .stixRead), ("list", .stixList)]
  | .init | .create | .read | .update | .delete | .list | .stixCreate | .stixRead | .stixList => []

/-- The level below with a name. -/
def subcommand? (level : Level) (name : String) : Option Level :=
  (level.subcommands.find? (·.1 = name)).map (·.2)

/-- Whether a level has levels below it, one of which has to be chosen. -/
def branches (level : Level) : Bool := !level.subcommands.isEmpty

/-- The switches of every level. -/
def sharedSwitches : List Switch :=
  [⟨some 'c', "config", .single, filledValue⟩, ⟨some 'r', "role", .single, anyValue⟩,
    ⟨some 'v', "verbose", .count, anyValue⟩, ⟨some 'h', "help", .help, anyValue⟩]

/-- The switches of a level alone. -/
def ownSwitches : Level → List Switch
  | .top => [⟨some 'V', "version", .version, anyValue⟩]
  | .create =>
    [⟨none, "json", .single, anyValue⟩, ⟨none, "uuid", .single, anyValue⟩,
      ⟨some 'd', "description", .single, anyValue⟩, ⟨none, "timestamp", .single, anyValue⟩,
      ⟨none, "sender", .single, anyValue⟩, ⟨none, "cid", .single, anyValue⟩,
      ⟨none, "vault-key", .single, anyValue⟩, ⟨none, "sha256", .single, anyValue⟩,
      ⟨none, "file", .single, filledValue⟩, ⟨some 'a', "access", .many, anyValue⟩]
  | .list =>
    [⟨some 'n', "page-size", .single, fun v => (integer32? v).isSome⟩,
      ⟨some 'b', "bookmark", .single, anyValue⟩, ⟨none, "all", .mark, anyValue⟩]
  | .init | .read | .update | .delete | .stix | .stixCreate | .stixRead | .stixList => []

/-- All switches of a level. -/
def switches (level : Level) : List Switch := level.ownSwitches ++ sharedSwitches

/-- The switch with a letter. -/
def switchOfLetter? (level : Level) (c : Char) : Option Switch :=
  level.switches.find? (·.letter = some c)

/-- The switch with a long name. -/
def switchOfName? (level : Level) (name : String) : Option Switch :=
  level.switches.find? (·.name = name)

/-- The operand that stands for the kind of an object. -/
def kindOperand : Operand := ⟨"kind", fun v => (Stix.Kind.ofName? v).isSome⟩

/-- The operands of a level. -/
def operands : Level → List Operand
  | .read | .delete => [⟨"uuid", anyValue⟩]
  | .update => [⟨"json", anyValue⟩]
  | .stixCreate => [kindOperand, ⟨"json", anyValue⟩]
  | .stixRead => [kindOperand, ⟨"id", anyValue⟩]
  | .top | .init | .create | .list | .stix | .stixList => []

/-- Pairs of switches of a level that exclude each other. -/
def conflicts : Level → List (String × String)
  | .create => [("sha256", "file")]
  | _ => []

end Level
end ThreatLedger.CommandLine
