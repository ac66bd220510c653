/-
  A store in a database that several connections share.

  1. **Tables** — a table keeps its rows by namespace and key; each namespace is an ordered map of its own.
  2. **Databases** — the committed table, and while an invocation is open the table with its writes and
     the connection that holds it.  That connection sees its own writes, the others the committed table.
  3. **Connections** — a connection sees the keys of its namespace only.  Outside an invocation its writes
     are committed at once; while another connection holds one, it cannot write.
-/
import ThreatLedger.Store.Basic
import ThreatLedger.Store.KeyMap

namespace ThreatLedger

/-! ## Tables -/

/-- The rows of a database: keys with bytes, by namespace. -/
abbrev Table := KeyMap (KeyMap Bytes)

namespace Table

/-- The rows of a namespace. -/
def rows (t : Table) (space : String) : KeyMap Bytes := (t.get? space).getD .empty

/-- Changes the rows of a namespace. -/
def change (t : Table) (space : String) (f : KeyMap Bytes → KeyMap Bytes) : Table :=
  t.insert space (f (t.rows space))

/-- Changing the rows of one namespace changes those of no other.  This is all that is needed of the
table to keep namespaces apart. -/
theorem rows_change (t : Table) (space : String) (f : KeyMap Bytes → KeyMap Bytes)
    (other : String) :
    (t.change space f).rows other = if other = space then f (t.rows space) else t.rows other := by
  unfold change rows
  rw [KeyMap.get?_insert]
  split <;> rfl

end Table

/-! ## Databases -/

/-- An open invocation: the connection that holds it, and the table with its writes. -/
structure Invocation where
  holder : Nat
  table : Table

/-- A database: what is committed, and the open invocation. -/
structure Database where
  committed : Table
  invocation : Option Invocation

/-- A connection: its number, and the namespace that it sees. -/
structure Connection where
  number : Nat
  space : String
  deriving DecidableEq, Repr

namespace Database

/-- The database without rows. -/
def empty : Database := ⟨.empty, none⟩

/-- Whether a connection holds the open invocation. -/
def heldBy (d : Database) (c : Connection) : Bool :=
  match d.invocation with
  | some i => i.holder == c.number
  | none => false

/-- The table that a connection sees. -/
def tableFor (d : Database) (c : Connection) : Table :=
  match d.invocation with
  | some i => if i.holder = c.number then i.table else d.committed
  | none => d.committed

/-- The rows that a connection sees. -/
def rowsFor (d : Database) (c : Connection) : KeyMap Bytes := (d.tableFor c).rows c.space

/-- Changes the rows of a connection's namespace, if no other connection holds an invocation. -/
def write (d : Database) (c : Connection) (f : KeyMap Bytes → KeyMap Bytes) :
    Except StoreError Database :=
  match d.invocation with
  | some i =>
    if i.holder = c.number then
      .ok { d with invocation := some { i with table := i.table.change c.space f } }
    else .error .database
  | none => .ok { d with committed := d.committed.change c.space f }

/-- Opens an invocation. -/
def begin (d : Database) (c : Connection) : Except StoreError Database :=
  match d.invocation with
  | some _ => if d.heldBy c then .error .alreadyOpen else .error .database
  | none => .ok { d with invocation := some ⟨c.number, d.committed⟩ }

/-- Makes the writes of an invocation visible to all connections. -/
def commit (d : Database) (c : Connection) : Except StoreError Database :=
  match d.invocation with
  | some i => if i.holder = c.number then .ok ⟨i.table, none⟩ else .error .notOpen
  | none => .error .notOpen

/-- Takes the writes of an invocation back. -/
def rollback (d : Database) (c : Connection) : Except StoreError Database :=
  if d.heldBy c then .ok { d with invocation := none } else .error .notOpen

/-- Closes a connection; an invocation that it holds is lost. -/
def close (d : Database) (c : Connection) : Database :=
  if d.heldBy c then { d with invocation := none } else d

/-- The first rows of a range, up to a number. -/
def select (d : Database) (c : Connection) (scan : Scan) (count : Nat) : List Entry :=
  ((d.rowsFor c).entries.filter fun e => scan.origin ≤ e.1 && scan.before e.1).take count

/-- A page of a range: one row more than it holds is selected, to find where the next page starts. -/
def page (d : Database) (c : Connection) (scan : Scan) (limit : Nat) : ScanPage :=
  let rows := d.select c scan (limit + 1)
  if limit < rows.length then ⟨rows.dropLast, (rows.getLast?.map (·.1)).getD ""⟩ else ⟨rows, ""⟩

end Database

/-! ## Stores -/

/-- A database as one of its connections sees it. -/
structure DatabaseStore where
  database : Database
  connection : Connection

namespace DatabaseStore

/-- A new database with one connection. -/
def empty (space : String) : DatabaseStore := ⟨.empty, ⟨0, space⟩⟩

/-- Changes the database, if it can be changed. -/
def modify (f : Database → Connection → Except StoreError Database) :
    Action DatabaseStore StoreError Unit := fun s =>
  match f s.database s.connection with
  | .ok d => ⟨.ok (), { s with database := d }, []⟩
  | .error e => ⟨.error e, s, []⟩

/-- Selects a page and reports how many rows it has. -/
def scanPage (scan : Scan) (limit : Nat) : Action DatabaseStore StoreError ScanPage := fun s =>
  let page := s.database.page s.connection scan limit
  ⟨.ok page, s, [.scanned s.connection.space scan.origin page.entries.length]⟩

instance : Store DatabaseStore where
  get key := fun s => ⟨.ok ((s.database.rowsFor s.connection).get? key), s, []⟩
  put key value := modify fun d c => d.write c (·.insert key value)
  delete key := modify fun d c => d.write c (·.erase key)
  scan scan := do
    let limit ← .ofExcept scan.limit
    if scan.exhausted then pure ⟨[], ""⟩ else scanPage scan limit
  entry e := .succeed e
  begin := modify Database.begin
  commit := modify Database.commit
  rollback := modify Database.rollback
  contents s := (s.database.rowsFor s.connection).entries

end DatabaseStore
end ThreatLedger
