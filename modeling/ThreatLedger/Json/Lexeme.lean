/-
  The small parts of a JSON text: blanks, literals, and what stands between the items of a container.

  1. **Blanks** — space, tab and the two line ends may stand before every part.
  2. **Literals** — `literal` reads the rest of `null`, `true` or `false` behind its first letter.
  3. **Containers** — `nextItem` finds the end of a container or the place of its next item.  It drops
     only what it has read, so a reader built from it still gets shorter.
-/
import ThreatLedger.Bytes
import ThreatLedger.Text.Ascii
import ThreatLedger.Text.Reader
import ThreatLedger.Json.Error

namespace ThreatLedger.Json

/-- A reader of JSON text. -/
abbrev Read (α : Type) := Reader UInt8 Error α

/-! ## Blanks -/

/-- Space, tab, line feed and carriage return. -/
def isBlank (b : UInt8) : Bool :=
  b = ascii ' ' || b = ascii '\t' || b = ascii '\n' || b = ascii '\r'

/-- The text behind its leading blanks. -/
def skipBlank : Bytes → Bytes
  | [] => []
  | b :: s => if isBlank b then skipBlank s else b :: s

/-- Skipping blanks takes nothing back: what is left is no longer than what was there.  All readers
below end because of lemmas like this one. -/
theorem skipBlank_le (s : Bytes) : (skipBlank s).length ≤ s.length := by
  induction s with
  | nil => exact Nat.le_refl _
  | cons b s ih =>
    unfold skipBlank
    split
    · exact Nat.le_succ_of_le ih
    · exact Nat.le_refl _

/-- The text behind its leading blanks, of which something is left: the byte that comes first is passed
besides, so that what follows is shorter. -/
theorem skipBlank_cons_lt {s r : Bytes} {b : UInt8} (h : skipBlank s = b :: r) :
    r.length < s.length := by
  have := skipBlank_le s
  rw [h] at this
  exact this

/-! ## Literals -/

/-- The rest of a literal: its letters, one by one. -/
def literal : Bytes → Bytes → Except Error Bytes
  | [], s => .ok s
  | _ :: _, [] => .error (.unfinished .value)
  | l :: ls, b :: s => if b = l then literal ls s else .error .expectedLiteral

/-- What is left behind a literal is no longer than what was read, by induction on the characters of the
literal. -/
theorem literal_le {ls s r : Bytes} (h : literal ls s = .ok r) : r.length ≤ s.length := by
  induction ls generalizing s with
  | nil =>
    cases h
    exact Nat.le_refl _
  | cons l ls ih =>
    cases s with
    | nil => cases h
    | cons b s =>
      unfold literal at h
      split at h
      · exact Nat.le_succ_of_le (ih h)
      · cases h

/-! ## Containers -/

/-- The bracket that closes a container. -/
def Frame.close : Frame → UInt8
  | .list => ascii ']'
  | .object => ascii '}'

/-- What a container holds next: nothing, with the text behind its bracket, or an item. -/
inductive Next
  | done (rest : Bytes)
  | item (rest : Bytes)

/-- The text that is left. -/
def Next.rest : Next → Bytes
  | .done r => r
  | .item r => r

/-- The place of an item that starts with `b`: a value in a list, and in an object the text behind the
quote that opens a name. -/
def Frame.start (f : Frame) (b : UInt8) (s : Bytes) : Except Error Next :=
  match f with
  | .list => .ok (.item (b :: s))
  | .object => if b = ascii '"' then .ok (.item s) else .error .nameNotString

/-- What a container holds next, before its first item or behind one. -/
def Frame.next (f : Frame) (first : Bool) (s : Bytes) : Except Error Next :=
  match skipBlank s with
  | [] => .error (.unfinished (.frame f))
  | b :: r =>
    if b = f.close then .ok (.done r)
    else if first then f.start b r
    else if b = ascii ',' then
      match skipBlank r with
      | [] => .error (.unfinished .value)
      | c :: t => if c = f.close then .error .trailingComma else f.start c t
    else .error (.expectedSeparator f)

/-- The start of an item may hand back the byte that was looked at, and no more than that. -/
theorem Frame.start_le {f : Frame} {b : UInt8} {s : Bytes} {n : Next} (h : f.start b s = .ok n) :
    n.rest.length ≤ s.length + 1 := by
  unfold Frame.start at h
  split at h
  · cases h
    exact Nat.le_refl _
  · split at h
    · cases h
      exact Nat.le_succ _
    · cases h

/-- An item that starts is not the end: a container is only done at its bracket, and that is looked for
before. -/
theorem Frame.start_ne_done (f : Frame) (b : UInt8) (s r : Bytes) : f.start b s ≠ .ok (.done r) := by
  intro h
  unfold Frame.start at h
  split at h
  · cases h
  · split at h <;> cases h

/-- What is left where a container goes on or ends is no longer than what was read: blanks, a comma, a
bracket and the quote of a name are passed at most. -/
theorem Frame.next_le {f : Frame} {first : Bool} {s : Bytes} {n : Next}
    (h : f.next first s = .ok n) : n.rest.length ≤ s.length := by
  have hs := skipBlank_le s
  unfold Frame.next at h
  split at h
  · cases h
  · next b r hb =>
    rw [hb] at hs
    split at h
    · cases h
      exact Nat.le_of_succ_le hs
    · split at h
      · exact Nat.le_trans (Frame.start_le h) hs
      · split at h
        · have hr := skipBlank_le r
          split at h
          · cases h
          · next c t hc =>
            rw [hc] at hr
            split at h
            · cases h
            · exact Nat.le_trans (Frame.start_le h) (Nat.le_trans hr (Nat.le_of_succ_le hs))
        · cases h

/-- A container that ends gets shorter by its bracket, whatever blanks come before that. -/
theorem Frame.next_done_lt {f : Frame} {first : Bool} {s r : Bytes}
    (h : f.next first s = .ok (.done r)) : r.length < s.length := by
  have hs := skipBlank_le s
  unfold Frame.next at h
  split at h
  · cases h
  · next b t hb =>
    rw [hb] at hs
    split at h
    · cases h
      exact hs
    · split at h
      · exact absurd h (start_ne_done _ _ _ _)
      · split at h
        · split at h
          · cases h
          · split at h
            · cases h
            · exact absurd h (start_ne_done _ _ _ _)
        · cases h

/-- The colon behind a name. -/
def colon : Read Unit where
  run s :=
    match skipBlank s with
    | [] => .error (.unfinished (.frame .object))
    | b :: r => if b = ascii ':' then .ok ((), r) else .error .expectedColon
  shorter {s _ _} h := by
    split at h
    · cases h
    · next hb =>
      split at h
      · cases h
        exact skipBlank_cons_lt hb
      · cases h

/-- One turn through a container: its end, or one more item added to what was read. -/
def gatherStep {σ : Type} (f : Frame) (item : σ → Read σ) (state : Bool × σ) :
    Read ((Bool × σ) ⊕ σ) where
  run s :=
    match f.next state.1 s with
    | .error e => .error e
    | .ok (.done r) => .ok (.inr state.2, r)
    | .ok (.item r) =>
      match (item state.2).run r with
      | .error e => .error e
      | .ok (x, r) => .ok (.inl (false, x), r)
  shorter h := by
    split at h
    · cases h
    · next hd =>
      cases h
      exact Frame.next_done_lt hd
    · next hi =>
      split at h
      · cases h
      · next hx =>
        cases h
        exact Nat.lt_of_lt_of_le ((item state.2).shorter hx) (Frame.next_le hi)

/-- The items of a container, one after the other: `item` reads one and adds it to what was read. -/
def gather {σ : Type} (f : Frame) (item : σ → Read σ) (start : σ) : Read σ :=
  Reader.loop (gatherStep f item) (true, start)

end ThreatLedger.Json
