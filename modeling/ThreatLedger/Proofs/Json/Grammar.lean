/-
  What a JSON text may be, said without a word on how it is read.

  1. **Blanks** — any number of them may stand around a part of a text (`Spaced`).
  2. **Strings** — `Quoted` is the form of a string.  `Spells` says how one character can be written in
     it, so that `StringText t s` says that the string `s` means the text `t`; a text has many strings.
  3. **Numbers** — of any size, with a fraction or an exponent.
  4. **Values** — scalars, and containers of values, nested to any depth.  `ValueText` recurses through
     the lists of their items and members, each of which keeps the blanks around its parts.

  Half of a surrogate pair is well-formed between quotes, though it is no part of a Unicode text: such a
  string is `Quoted`, and it means no text.
-/
import ThreatLedger.Json.Lexeme
import ThreatLedger.Json.Printer
import ThreatLedger.Proofs.Text.ByteOrder

namespace ThreatLedger.Json

/-! ## Blanks -/

/-- Nothing but blanks. -/
def Blank (w : Bytes) : Prop := ∀ b ∈ w, isBlank b = true

instance (w : Bytes) : Decidable (Blank w) := List.decidableBAll _ w

theorem blank_nil : Blank [] := fun _ => nofun

/-- A part of a text with the blanks around it. -/
structure Spaced where
  before : Bytes
  part : Bytes
  behind : Bytes
  blank_before : Blank before
  blank_behind : Blank behind

/-- The part as it stands in the text. -/
def Spaced.bytes (s : Spaced) : Bytes := s.before ++ (s.part ++ s.behind)

/-- A part without blanks around it. -/
def Spaced.tight (s : Bytes) : Spaced := ⟨[], s, [], blank_nil, blank_nil⟩

/-- What can stand behind a value. -/
def delimiters : Bytes :=
  [ascii ' ', ascii '\t', ascii '\n', ascii '\r', ascii ',', ascii ']', ascii '}']

/-- A text that does not go on with what is before it: it is empty, or starts with a delimiter. -/
def Detached (rest : Bytes) : Prop := ∀ b ∈ rest.head?, b ∈ delimiters

/-- What is checked of all delimiters holds where a detached text starts. -/
theorem Detached.front {P : UInt8 → Bool} (hP : delimiters.all P = true) {rest : Bytes}
    (h : Detached rest) : ∀ b ∈ rest.head?, P b = true :=
  fun b hb => List.all_eq_true.mp hP b (h b hb)

/-- A comma ends a value: it continues neither digits nor a literal. -/
theorem detached_comma (rest : Bytes) : Detached (ascii ',' :: rest) := by
  intro b hb
  cases hb
  decide

/-- A closing bracket ends a value, that of a list as that of an object. -/
theorem detached_close (f : Frame) (rest : Bytes) : Detached (f.close :: rest) := by
  intro b hb
  cases hb
  cases f <;> decide

/-- Blanks end a value as well, and what is behind them may be anything that ends one. -/
theorem detached_blank {w rest : Bytes} (hw : Blank w) (hrest : Detached rest) :
    Detached (w ++ rest) := by
  cases w with
  | nil => exact hrest
  | cons b w =>
    intro c hc
    cases hc
    have hb := hw b List.mem_cons_self
    simp only [isBlank, Bool.or_eq_true, decide_eq_true_eq] at hb
    rcases hb with ((rfl | rfl) | rfl) | rfl <;> decide

theorem skipBlank_append {w : Bytes} (hw : Blank w) (s : Bytes) : skipBlank (w ++ s) = skipBlank s := by
  induction w with
  | nil => rfl
  | cons b w ih =>
    obtain ⟨hb, hw⟩ := List.forall_mem_cons.mp hw
    rw [List.cons_append, skipBlank, if_pos hb, ih hw]

/-! ## Strings -/

/-- A string: its quotes, and what stands between them. -/
def quoted (w : Bytes) : Bytes := ascii '"' :: (w ++ [ascii '"'])

/-- Four hexadecimal digits of either case, and the unit that they write. -/
inductive FourDigits : Bytes → Nat → Prop
  | mk {a b c d : UInt8} {m n o p : Nat} : Ascii.hexValue? a = some m → Ascii.hexValue? b = some n →
    Ascii.hexValue? c = some o → Ascii.hexValue? d = some p →
    FourDigits [a, b, c, d] (((m * 16 + n) * 16 + o) * 16 + p)

/-- The escapes of one character behind the backslash, and the characters that they mean. -/
def shortEscapes : List (UInt8 × Char) :=
  [(ascii '"', '"'), (ascii '\\', '\\'), (ascii '/', '/'), (ascii 'b', '\x08'), (ascii 'f', '\x0c'),
    (ascii 'n', '\n'), (ascii 'r', '\r'), (ascii 't', '\t')]

/-- What stands between the quotes of a string: bytes as they are, and escapes. -/
inductive Inside : Bytes → Prop
  | nil : Inside []
  | plain {b w} : b ≠ ascii '"' → b ≠ ascii '\\' → 0x20 ≤ b → Inside w → Inside (b :: w)
  | short {e w} : e ∈ shortEscapes.map (·.1) → Inside w → Inside (ascii '\\' :: e :: w)
  | unit {ds n w} : FourDigits ds n → Inside w → Inside (ascii '\\' :: ascii 'u' :: (ds ++ w))

/-- A string. -/
def Quoted (s : Bytes) : Prop := ∃ w, Inside w ∧ s = quoted w

/-- How a character can be written: as it is, in an escape, by its code point, or by the surrogates of
its code point. -/
inductive Spells (c : Char) : Bytes → Prop
  | plain : c ≠ '"' → c ≠ '\\' → 0x20 ≤ c.toNat → Spells c (String.utf8EncodeChar c)
  | short {e} : (e, c) ∈ shortEscapes → Spells c [ascii '\\', e]
  | unit {ds} : FourDigits ds c.toNat → Spells c (ascii '\\' :: ascii 'u' :: ds)
  | pair {ds es lead trail} : FourDigits ds lead → FourDigits es trail →
    0xd800 ≤ lead → lead < 0xdc00 → 0xdc00 ≤ trail → trail < 0xe000 →
    c.toNat = (lead - 0xd800) * 0x400 + (trail - 0xdc00) + 0x10000 →
    Spells c (ascii '\\' :: ascii 'u' :: (ds ++ ascii '\\' :: ascii 'u' :: es))

/-- How characters can be written one behind the other. -/
inductive Spelled : List Char → Bytes → Prop
  | nil : Spelled [] []
  | cons {c cs v w} : Spells c v → Spelled cs w → Spelled (c :: cs) (v ++ w)

/-- The string means the text. -/
def StringText (t : String) (s : Bytes) : Prop := ∃ w, Spelled t.toList w ∧ s = quoted w

/-- Characters that need no escape. -/
def Plain (cs : List Char) : Prop := ∀ c ∈ cs, c ≠ '"' ∧ c ≠ '\\' ∧ 0x20 ≤ c.toNat

instance (cs : List Char) : Decidable (Plain cs) := List.decidableBAll _ cs

/-- Characters that need no escape are spelled by their own bytes. -/
theorem spelled_plain {cs : List Char} (h : Plain cs) :
    Spelled cs (cs.flatMap String.utf8EncodeChar) := by
  induction cs with
  | nil => exact .nil
  | cons c cs ih =>
    obtain ⟨⟨hquote, hslash, hcontrol⟩, hcs⟩ := List.forall_mem_cons.mp h
    exact .cons (.plain hquote hslash hcontrol) (ih hcs)

/-- A text that needs no escape may stand between quotes as it is. -/
theorem stringText_plain {t : String} (h : Plain t.toList) : StringText t (quoted (Bytes.ofText t)) :=
  ⟨_, Bytes.ofText_eq t ▸ spelled_plain h, rfl⟩

/-! ## Numbers -/

/-- One digit or more. -/
def Digits (ds : Bytes) : Prop := ds ≠ [] ∧ ∀ d ∈ ds, Ascii.isDigit d = true

/-- The digits before the point. -/
inductive WholePart : Bytes → Prop
  | zero : WholePart [ascii '0']
  | digits {d ds} : d ≠ ascii '0' → Digits (d :: ds) → WholePart (d :: ds)

/-- The point and the digits behind it, or nothing. -/
inductive FractionPart : Bytes → Prop
  | none : FractionPart []
  | digits {ds} : Digits ds → FractionPart (ascii '.' :: ds)

/-- The exponent, with or without a sign, or nothing. -/
inductive ExponentPart : Bytes → Prop
  | none : ExponentPart []
  | plain {e ds} : e = ascii 'e' ∨ e = ascii 'E' → Digits ds → ExponentPart (e :: ds)
  | signed {e sign ds} : e = ascii 'e' ∨ e = ascii 'E' → sign = ascii '+' ∨ sign = ascii '-' →
    Digits ds → ExponentPart (e :: sign :: ds)

/-- A number without a sign. -/
inductive UnsignedText : Bytes → Prop
  | mk {n f e} : WholePart n → FractionPart f → ExponentPart e → UnsignedText (n ++ (f ++ e))

/-- A number. -/
inductive NumberText : Bytes → Prop
  | positive {s} : UnsignedText s → NumberText s
  | negative {s} : UnsignedText s → NumberText (ascii '-' :: s)

/-! ## Values -/

/-- The bracket that opens a container. -/
def Frame.bracket : Frame → UInt8
  | .list => ascii '['
  | .object => ascii '{'

/-- Items behind another one, each behind a comma. -/
def others (items : List Bytes) : Bytes := items.flatMap (ascii ',' :: ·)

/-- What stands between the brackets of a container: its items, or blanks where there are none. -/
def between (w : Bytes) : List Bytes → Bytes
  | [] => w
  | i :: items => i ++ others items

/-- A container of items. -/
def container (f : Frame) (w : Bytes) (items : List Bytes) : Bytes :=
  f.bracket :: (between w items ++ [f.close])

/-- A member of an object: its name and its value. -/
structure Member where
  name : Spaced
  value : Spaced

/-- The member as it stands in the text. -/
def Member.bytes (m : Member) : Bytes := m.name.bytes ++ ascii ':' :: m.value.bytes

/-- A value. -/
inductive ValueText : Bytes → Prop
  | null : ValueText nullLiteral
  | true : ValueText trueLiteral
  | false : ValueText falseLiteral
  | number {s} : NumberText s → ValueText s
  | string {s} : Quoted s → ValueText s
  | list {w} {items : List Spaced} : Blank w → (∀ i ∈ items, ValueText i.part) →
    ValueText (container .list w (items.map Spaced.bytes))
  | object {w} {members : List Member} : Blank w → (∀ m ∈ members, Quoted m.name.part) →
    (∀ m ∈ members, ValueText m.value.part) →
    ValueText (container .object w (members.map Member.bytes))

end ThreatLedger.Json
