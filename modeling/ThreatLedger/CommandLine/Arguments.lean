/-
  Reading the arguments of a command line, level by level.

  1. **Order** — arguments are read from left to right.  Help and version stop at once; a value is judged
     when the next argument shows that it is complete, and what a level lacks is judged at its end.
  2. **Forms** — `--name value`, `--name=value`, letters in a row behind one dash, the last of them with a
     value attached or following.  Behind `--` everything is an operand.
  3. **Levels** — a name of a subcommand goes on to the level below, unless a switch still waits for its
     value.  `help` and names of subcommands behind it stop with help.
-/
import ThreatLedger.CommandLine.Level

namespace ThreatLedger.CommandLine

/-- Why reading stops without a command. -/
inductive Stop
  | usage
  | help
  | version
  deriving DecidableEq, Repr

/-- The exit code of a program that stops so. -/
def Stop.exitCode : Stop → Nat
  | .usage => 2
  | .help | .version => 0

/-! ## Progress on a level -/

/-- What is not judged yet: a switch that may still wait for its value, or an operand. -/
inductive Pending
  | switch (s : Switch) (value : Option String)
  | operand (o : Operand) (value : String)

/-- What has been read on a level: the switches that occurred, in order and with their values, and the
operands. -/
structure Progress where
  found : List (String × String)
  operands : List String
  pending : Option Pending
  escaped : Bool

namespace Progress

/-- A level of which nothing has been read. -/
def start : Progress := ⟨[], [], none, false⟩

/-- Whether a switch occurred. -/
def has (p : Progress) (name : String) : Bool := p.found.any (·.1 = name)

/-- Adds a switch with its value. -/
def record (p : Progress) (s : Switch) (value : String) : Except Stop Progress :=
  if s.isUnique ∧ p.has s.name then .error .usage
  else if s.takesValue ∧ !s.accepts value then .error .usage
  else .ok { p with found := p.found ++ [(s.name, value)] }

/-- Judges what is pending. -/
def resolve (p : Progress) : Except Stop Progress :=
  let done := { p with pending := none }
  match p.pending with
  | none => .ok done
  | some (.switch _ none) => .error .usage
  | some (.switch s (some value)) => done.record s value
  | some (.operand o value) =>
    if o.accepts value then .ok { done with operands := p.operands ++ [value] } else .error .usage

/-- A switch that is complete. -/
def react (p : Progress) (s : Switch) (value : String) : Except Stop Progress := do
  let p ← p.resolve
  match s.effect with
  | .help => .error .help
  | .version => .error .version
  | .mark | .count | .single | .many => p.record s value

/-- A switch whose value is still to come. -/
def await (p : Progress) (s : Switch) : Except Stop Progress := do
  let p ← p.resolve
  .ok { p with pending := some (.switch s none) }

/-- The switch that waits for its value. -/
def waiting? (p : Progress) : Option Switch :=
  match p.pending with
  | some (.switch s none) => some s
  | _ => none

end Progress

/-! ## Arguments on a level -/

/-- A long switch, behind its dashes. -/
def readLong (level : Level) (p : Progress) (cs : List Char) : Except Stop Progress :=
  let name := String.ofList (cs.takeWhile (· ≠ '='))
  let attached := cs.dropWhile (· ≠ '=')
  match level.switchOfName? name with
  | none => .error .usage
  | some s =>
    match attached, s.takesValue with
    | [], true => p.await s
    | [], false => p.react s ""
    | _ :: value, true => p.react s (String.ofList value)
    | _ :: _, false => .error .usage

/-- A value that is attached to a letter; an equals sign before it does not count. -/
def attachedValue (cs : List Char) : String :=
  match cs with
  | '=' :: cs => String.ofList cs
  | cs => String.ofList cs

/-- Letters in a row, behind their dash. -/
def readLetters (level : Level) (p : Progress) : List Char → Except Stop Progress
  | [] => .ok p
  | c :: cs =>
    match level.switchOfLetter? c with
    | none => .error .usage
    | some s =>
      if s.takesValue then
        if cs.isEmpty then p.await s else p.react s (attachedValue cs)
      else do
        let p ← p.react s ""
        readLetters level p cs

/-- A value without a switch. -/
def readOperand (level : Level) (p : Progress) (value : String) : Except Stop Progress := do
  let p ← p.resolve
  match level.operands[p.operands.length]? with
  | none => .error .usage
  | some o => .ok { p with pending := some (.operand o value) }

/-- A value: that of the switch that waits for one, or an operand. -/
def readValue (level : Level) (p : Progress) (value : String) : Except Stop Progress :=
  match p.waiting? with
  | some s => .ok { p with pending := some (.switch s (some value)) }
  | none => readOperand level p value

/-- An argument that is no subcommand. -/
def readArgument (level : Level) (p : Progress) (arg : String) : Except Stop Progress :=
  if p.escaped then readOperand level p arg
  else
    match arg.toList with
    | ['-', '-'] => .ok { p with escaped := true }
    | '-' :: '-' :: cs => readLong level p cs
    | '-' :: c :: cs => readLetters level p (c :: cs)
    | _ => readValue level p arg

/-! ## Levels -/

/-- What was given on a level. -/
structure Given where
  level : Level
  found : List (String × String)
  operands : List String
  deriving DecidableEq, Repr

/-- Judges a level at its end. -/
def close (level : Level) (p : Progress) : Except Stop Given := do
  let p ← p.resolve
  if level.conflicts.any fun c => p.has c.1 && p.has c.2 then .error .usage
  else if p.operands.length < level.operands.length then .error .usage
  else .ok ⟨level, p.found, p.operands⟩

/-- What `help` answers for the names behind it. -/
def helpFor (level : Level) : List String → Stop
  | [] => .help
  | name :: names =>
    match level.subcommand? name with
    | some below => helpFor below names
    | none => if level.branches ∧ name = "help" ∧ names.isEmpty then .help else .usage

/-- Whether a name may lead to another level. -/
def mayDescend (level : Level) (p : Progress) : Bool :=
  level.branches && !p.escaped && p.waiting?.isNone

/-- Reads arguments from a level on; answers with what was given on each level, the outermost first. -/
def readFrom (level : Level) (p : Progress) : List String → Except Stop (List Given)
  | [] =>
    if level.branches then .error .usage
    else do
      let given ← close level p
      .ok [given]
  | arg :: args =>
    match if mayDescend level p then level.subcommand? arg else none with
    | some below => do
      let inner ← readFrom below .start args
      let given ← close level p
      .ok (given :: inner)
    | none =>
      if mayDescend level p ∧ arg = "help" then .error (helpFor level args)
      else do
        let p ← readArgument level p arg
        readFrom level p args

/-- Reads the arguments of a command line. -/
def read (args : List String) : Except Stop (List Given) := readFrom .top .start args

end ThreatLedger.CommandLine
