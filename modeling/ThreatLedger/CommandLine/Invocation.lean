/-
  What a command line asks for.

  1. **Commands** — one constructor for each, with its options; an option that is not given has its default.
  2. **Invocations** — a command with the shared options.  Of a shared option that is given on several
     levels the innermost counts.
-/
import ThreatLedger.CommandLine.Arguments

namespace ThreatLedger.CommandLine

/-! ## Commands -/

/-- The options of `create`. -/
structure CreateOptions where
  json : Option String
  uuid : Option String
  description : String
  timestamp : Option String
  sender : Option String
  cid : String
  vaultKey : String
  sha256 : String
  file : Option String
  access : List String
  deriving DecidableEq, Repr

/-- The options of `list`. -/
structure ListOptions where
  size : Int
  bookmark : String
  all : Bool
  deriving DecidableEq, Repr

/-- What is to be done. -/
inductive Command
  | init
  | create (options : CreateOptions)
  | read (uuid : String)
  | update (json : String)
  | delete (uuid : String)
  | list (options : ListOptions)
  | stixCreate (kind : Stix.Kind) (json : String)
  | stixRead (kind : Stix.Kind) (id : String)
  | stixList
  deriving DecidableEq, Repr

namespace Given

/-- The values of a switch. -/
def all (g : Given) (name : String) : List String := (g.found.filter (·.1 = name)).map (·.2)

/-- The value of a switch. -/
def get? (g : Given) (name : String) : Option String := (g.all name).head?

/-- The value of a switch; empty when it is not given. -/
def get (g : Given) (name : String) : String := (g.get? name).getD ""

/-- The operand at a position. -/
def operand (g : Given) (i : Nat) : String := (g.operands[i]?).getD ""

/-- The options of `create`. -/
def createOptions (g : Given) : CreateOptions :=
  { json := g.get? "json"
    uuid := g.get? "uuid"
    description := g.get "description"
    timestamp := g.get? "timestamp"
    sender := g.get? "sender"
    cid := g.get "cid"
    vaultKey := g.get "vault-key"
    sha256 := g.get "sha256"
    file := g.get? "file"
    access := g.all "access" }

/-- The page size of `list` where none is given. -/
def defaultSize : Int := 10

/-- The options of `list`. -/
def listOptions (g : Given) : ListOptions :=
  { size := ((g.get? "page-size").bind integer32?).getD defaultSize
    bookmark := g.get "bookmark"
    all := !(g.all "all").isEmpty }

/-- The kind of objects that the first operand names. -/
def kind? (g : Given) : Option Stix.Kind := Stix.Kind.ofName? (g.operand 0)

/-- The command of a level that has no levels below it. -/
def command? (g : Given) : Option Command :=
  match g.level with
  | .top | .stix => none
  | .init => some .init
  | .create => some (.create g.createOptions)
  | .read => some (.read (g.operand 0))
  | .update => some (.update (g.operand 0))
  | .delete => some (.delete (g.operand 0))
  | .list => some (.list g.listOptions)
  | .stixCreate => g.kind?.map fun kind => .stixCreate kind (g.operand 1)
  | .stixRead => g.kind?.map fun kind => .stixRead kind (g.operand 1)
  | .stixList => some .stixList

end Given

/-! ## Invocations -/

/-- A command with the shared options. -/
structure Invocation where
  config : Option String
  role : Option String
  verbosity : Nat
  command : Command
  deriving DecidableEq, Repr

/-- The values of a shared switch on the innermost level that has it. -/
def innermost (given : List Given) (name : String) : List String :=
  ((given.map (·.all name)).reverse.find? (!·.isEmpty)).getD []

/-- The greatest verbosity. -/
def greatestVerbosity : Nat := 255

/-- What arguments ask for. -/
def parse (args : List String) : Except Stop Invocation := do
  let given ← read args
  match given.getLast?.bind Given.command? with
  | none => .error .usage
  | some command =>
    .ok { config := (innermost given "config").head?
          role := (innermost given "role").head?
          verbosity := min (innermost given "verbose").length greatestVerbosity
          command := command }

end ThreatLedger.CommandLine
