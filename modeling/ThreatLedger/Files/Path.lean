/-
  Paths as texts, their parts separated by slashes.

  1. **Joining** — `join` goes on from one path with another.
  2. **Parts** — `parts` splits a path into its names; the root is a part of its own.  Empty parts do not
     count, nor does a `.` that is not the first part of a relative path.
  3. **Parents** — `parent?` is the path of the directory that a path lies in, as it is written there.
-/
namespace ThreatLedger.Path

/-- The part that stands for the root. -/
def root : String := "/"

/-- Whether a path starts at the root. -/
def isAbsolute (path : String) : Bool := path.toList.head? = some '/'

/-! ## Joining -/

/-- A path that goes on from another one; an absolute path starts anew. -/
def join (base path : String) : String :=
  if isAbsolute path || base.isEmpty then path
  else if base.toList.getLast? = some '/' then base ++ path
  else base ++ "/" ++ path

/-! ## Parts -/

/-- The pieces of a text between separators. -/
def pieces (separator : Char) : List Char → List (List Char)
  | [] => [[]]
  | c :: cs =>
    if c = separator then [] :: pieces separator cs
    else
      match pieces separator cs with
      | [] => [[c]]
      | p :: ps => (c :: p) :: ps

/-- What stands between the slashes of a path, empty pieces and all. -/
def steps (path : String) : List String := (pieces '/' path.toList).map String.ofList

/-- The parts of a path. -/
def parts (path : String) : List String :=
  let steps := steps path
  let first := if isAbsolute path then [root] else if steps.head? = some "." then ["."] else []
  first ++ steps.filter fun s => s ≠ "" && s ≠ "."

/-! ## Parents -/

/-- Steps without those at their end that are no parts. -/
def trimmed (steps : List String) : List String :=
  (steps.reverse.dropWhile fun s => s = "" || s = ".").reverse

/-- The path of the directory that a path lies in; the root and the empty path lie in none. -/
def parent? (path : String) : Option String :=
  match steps path with
  | [] => none
  | first :: rest =>
    match trimmed rest with
    | [] => if first = "" then none else some ""
    | s :: ss =>
      let above := trimmed (s :: ss).dropLast
      if first = "" ∧ above = [] then some root else some ("/".intercalate (first :: above))

end ThreatLedger.Path
