/-
  Reading a TOML document.

  1. **Values** — strings, scalars, lists and inline tables, nested to a depth that is given.
  2. **Lines** — a line holds a header, a pair of a key and a value, or nothing; a comment may follow.
  3. **Documents** — the lines build one table: `parse` answers with its members, or refuses.
-/
import ThreatLedger.Toml.Scalar
import ThreatLedger.Toml.Table
import ThreatLedger.Toml.Text

namespace ThreatLedger.Toml

/-! ## Keys -/

/-- Whether a character may stand in a key without quotes. -/
def isKeyChar (c : Char) : Bool := c.isAlphanum || c = '_' || c = '-'

/-- A key without quotes. -/
def bareKey : Read String :=
  (Reader.one ⟨⟩ fun c => if isKeyChar c then .ok c else .error ⟨⟩).followedBy
    (fun c s => .ok (String.ofList (c :: s.takeWhile isKeyChar), s.dropWhile isKeyChar))
    (by
      intro c s k r h
      cases h
      exact (List.dropWhile_suffix _).length_le)

/-- One character, which is dropped, and then what `p` reads. -/
def behind {α : Type} (p : Read α) : Read α := (Reader.one ⟨⟩ .ok).bind fun _ => p

/-- A key: bare, or a string on one line. -/
def key : Read String :=
  .byFirst ⟨⟩ fun c =>
    if c = '"' then behind (shortString '"' true)
    else if c = '\'' then behind (shortString '\'' false)
    else bareKey

/-- A key of a path, after the earlier ones, and the point that leads on to the next. -/
def pathStep (path : List String) : Read (List String ⊕ List String) :=
  key.followedBy
    (fun k s =>
      match skipBlank s with
      | '.' :: r => .ok (.inl (k :: path), skipBlank r)
      | r => .ok (.inr (k :: path).reverse, r))
    (by
      intro k s x r h
      have hs := skipBlank_le s
      split at h
      · next t ht =>
        cases h
        have := skipBlank_le t
        rw [ht, List.length_cons] at hs
        omega
      · cases h
        exact hs)

/-- The greatest number of keys in a path. -/
def longestPath : Nat := 80

/-- A path of keys with points between them, and the blanks behind it. -/
def keyPath : Read (List String) :=
  (Reader.loop pathStep []).followedBy
    (fun path s => if path.length ≤ longestPath then .ok (path, s) else .error ⟨⟩)
    (by
      intro path s x r h
      split at h
      · cases h
        exact Nat.le_refl _
      · cases h)

/-! ## Values -/

/-- A character that has to stand next. -/
def sign (c : Char) : Read Unit := .one ⟨⟩ fun d => if d = c then .ok () else .error ⟨⟩

/-- A pair of a path and a value. -/
def pair (item : Read Value) : Read (List String × Value) :=
  keyPath.bind fun path =>
    (sign '=').bind fun _ => .after skipBlank skipBlank_le (item.map fun v => (path, v))

/-- The last key of a path and the keys before it. -/
def splitLast : List String → Except Malformed (List String × String)
  | [] => .error ⟨⟩
  | [k] => .ok ([], k)
  | k :: l :: ks => (splitLast (l :: ks)).map fun x => (k :: x.1, x.2)

/-- Adds a pair to a table. -/
def addPath (p : List String × Value) : Change := fun origin members => do
  let (path, key) ← splitLast p.1
  addAt path key p.2 origin members

/-- An item of a list after the earlier ones, or the bracket at its end. -/
def listStep (item : Read Value) (items : List Value) : Read (List Value ⊕ List Value) where
  run s :=
    match skipTrivia false s with
    | .error e => .error e
    | .ok (']' :: r) => .ok (.inr items.reverse, r)
    | .ok s =>
      match item.run s with
      | .error e => .error e
      | .ok (v, r) =>
        match skipTrivia false r with
        | .error e => .error e
        | .ok (',' :: r) => .ok (.inl (v :: items), r)
        | .ok (']' :: r) => .ok (.inr (v :: items).reverse, r)
        | .ok _ => .error ⟨⟩
  shorter {s x r} h := by
    split at h
    · cases h
    · next t ht =>
      cases h
      exact skipTrivia_le _ _ ht
    · next t ht =>
      have ht := skipTrivia_le _ _ ht
      split at h
      · cases h
      · next hv =>
        have hv := item.shorter hv
        split at h
        · cases h
        · next hr =>
          cases h
          have := skipTrivia_le _ _ hr
          simp only [List.length_cons] at this
          omega
        · next hr =>
          cases h
          have := skipTrivia_le _ _ hr
          simp only [List.length_cons] at this
          omega
        · cases h

/-- A list, behind its bracket. -/
def list (item : Read Value) : Read Value := (Reader.loop (listStep item) []).map .array

/-- A pair of an inline table after the earlier ones, and the comma or bracket behind it. -/
def inlineStep (item : Read Value) (members : Members) : Read (Members ⊕ Members) where
  run s :=
    match (pair item).run s with
    | .error e => .error e
    | .ok (p, r) =>
      match addPath p .header members with
      | .error e => .error e
      | .ok members =>
        match skipBlank r with
        | ',' :: r => .ok (.inl members, skipBlank r)
        | '}' :: r => .ok (.inr members, r)
        | _ => .error ⟨⟩
  shorter {s x r} h := by
    split at h
    · cases h
    · next p t hp =>
      have hp := (pair item).shorter hp
      split at h
      · cases h
      · have ht := skipBlank_le t
        split at h
        · next u hu =>
          cases h
          have := skipBlank_le u
          rw [hu, List.length_cons] at ht
          omega
        · next u hu =>
          cases h
          rw [hu, List.length_cons] at ht
          omega
        · cases h

/-- The members of an inline table, behind the blanks that follow its bracket. -/
def inlineMembers (item : Read Value) : Read Members :=
  .byFirst ⟨⟩ fun c =>
    if c = '}' then (sign '}').map fun _ => []
    else Reader.loop (inlineStep item) []

/-- An inline table, behind its bracket. -/
def inlineTable (item : Read Value) : Read Value :=
  .after skipBlank skipBlank_le ((inlineMembers item).map (.table .inline))

/-- A value; `item` reads the values inside brackets, if brackets may still open. -/
def valueOf (item : Option (Read Value)) : Read Value :=
  .byFirst ⟨⟩ fun c =>
    if c = '"' then behind ((behindQuote '"' true).map .string)
    else if c = '\'' then behind ((behindQuote '\'' false).map .string)
    else if c = '[' then
      match item with
      | some item => behind (list item)
      | none => refuse
    else if c = '{' then
      match item with
      | some item => behind (inlineTable item)
      | none => refuse
    else scalar

/-- A value with brackets at most `depth` deep. -/
def value : Nat → Read Value
  | 0 => valueOf none
  | depth + 1 => valueOf (some (value depth))

/-- How deep brackets may nest. -/
def greatestDepth : Nat := 80

/-! ## Lines -/

/-- What a line holds. -/
inductive Statement
  | table (path : List String)
  | element (path : List String)
  | pair (path : List String) (v : Value)

/-- A path between brackets, behind the opening one. -/
def bracketed : Read (List String) :=
  .after skipBlank skipBlank_le (keyPath.bind fun path => (sign ']').map fun _ => path)

/-- A header, behind its first bracket. -/
def header : Read Statement :=
  .byFirst ⟨⟩ fun c =>
    if c = '[' then behind (bracketed.bind fun path => (sign ']').map fun _ => .element path)
    else bracketed.map .table

/-- A statement. -/
def statement : Read Statement :=
  .byFirst ⟨⟩ fun c =>
    if c = '[' then behind header
    else (pair (value greatestDepth)).map fun p => .pair p.1 p.2

/-- Whether a line that starts with a character behind its blanks holds no statement. -/
def isEmptyLine (c : Char) : Bool := c = '#' || c = '\n' || c = '\r'

/-- A line of a text: its statement, if it has one. -/
def line : Read (Option Statement) :=
  .after skipBlank skipBlank_le (.byFirst ⟨⟩ fun c =>
    if isEmptyLine c then
      { run := fun s =>
          if s.isEmpty then .error ⟨⟩ else (endLine s).map (none, ·)
        shorter := by
          intro s x r h
          split at h
          · cases h
          · next hs =>
            cases he : endLine s with
            | error e => rw [he] at h; cases h
            | ok t =>
              rw [he] at h
              cases h
              exact endLine_lt (by simpa using hs) he }
    else
      statement.followedBy (fun x s => (endLine s).map (some x, ·)) (by
        intro x s y r h
        cases he : endLine s with
        | error e => rw [he] at h; cases h
        | ok t => rw [he] at h; cases h; exact endLine_le he))

/-! ## Documents -/

/-- A document so far: its members, and the path of the table that pairs go to. -/
structure Draft where
  members : Members
  current : List String

/-- Changes the table at a path that headers give. -/
def Draft.change (d : Draft) (path : List String) (f : Change) : Except Malformed Members :=
  changeAt false f path .header d.members

/-- A document with one more statement. -/
def Draft.extend (d : Draft) : Statement → Except Malformed Draft
  | .table path => do
    let (parents, key) ← splitLast path
    let members ← d.change parents (openTable key)
    .ok ⟨members, path⟩
  | .element path => do
    let (parents, key) ← splitLast path
    let members ← d.change parents (addTable key)
    .ok ⟨members, path⟩
  | .pair path v => do
    let members ← d.change d.current (addPath (path, v))
    .ok { d with members := members }

/-- Reads a line into a document. -/
def readLine (d : Draft) : Read Draft where
  run s :=
    match line.run s with
    | .error e => .error e
    | .ok (none, r) => .ok (d, r)
    | .ok (some x, r) => (d.extend x).map (·, r)
  shorter {s x r} h := by
    split at h
    · cases h
    · next hl => cases h; exact line.shorter hl
    · next y t hl =>
      cases he : d.extend y with
      | error e => rw [he] at h; cases h
      | ok d' => rw [he] at h; cases h; exact line.shorter hl

/-- The mark that may stand at the start of a text. -/
def byteOrderMark : Char := '\ufeff'

/-- A text without a mark at its start and without blanks at its end. -/
def trimmed (s : List Char) : List Char :=
  let s := if s.head? = some byteOrderMark then s.drop 1 else s
  (s.reverse.dropWhile isBlank).reverse

/-- The members of a document. -/
def parse (text : String) : Except Malformed Members :=
  (Reader.toEnd readLine ⟨[], []⟩ (trimmed text.toList)).map Draft.members

end ThreatLedger.Toml
