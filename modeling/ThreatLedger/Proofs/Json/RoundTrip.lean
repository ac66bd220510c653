/-
  What is written compactly is read back.

  1. **Strings** — a byte is written in one of three ways, and each is one step of reading a string,
     so a quoted text is read back byte by byte.
  2. **Values** — `Reads p v a` says that the reader `p` takes the compact text of `v` off a text,
     whatever ends a value behind it, and gives `a`.
  3. **Containers** — behind a comma, and at the front, the next item of a container is found; the
     items of a list, and the members of an object, are read back one after the other.
  4. **Structures** — a property is read back as the change that it makes, and a structure as the
     changes that its properties make to the empty one (`reads_schema`).
-/
import Mathlib.Data.List.Forall2
import Mathlib.Tactic.SplitIfs
import ThreatLedger.Json.Schema
import ThreatLedger.Proofs.Json.Grammar

namespace ThreatLedger.Json

/-! ## Strings -/

/-- Hexadecimal digits are read as they are printed, checked for all sixteen. -/
theorem hexValue?_hexByte : ∀ n < 16, Ascii.hexValue? (hexByte n) = some n := by decide

theorem utf8_control : ∀ n < 32, utf8 n = [UInt8.ofNat n] := by decide

/-- How a byte can be written in a string: as it is, behind a backslash, or in four digits. -/
inductive Written (b : UInt8) : Bytes → Prop
  | plain : b ≠ ascii '"' → b ≠ ascii '\\' → ¬b < 0x20 → Written b [b]
  | short {c} : shortEscape? c = some b → Written b [ascii '\\', c]
  | digits : b < 0x20 → Written b [ascii '\\', ascii 'u', ascii '0', ascii '0',
    hexByte (b.toNat / 16), hexByte (b.toNat % 16)]

/-- Every byte is written in one of the three ways that a string can be read back from. -/
theorem written_escapeByte (b : UInt8) : Written b (escapeByte b) := by
  unfold escapeByte
  -- the cases stand in the order in which the printer asks for them
  split_ifs with hquote hslash hplain hb ht hn hf hr
  · subst hquote
    exact .short rfl
  · subst hslash
    exact .short rfl
  · exact .plain hquote hslash (UInt8.not_lt.mpr hplain)
  · subst hb
    exact .short rfl
  · subst ht
    exact .short rfl
  · subst hn
    exact .short rfl
  · subst hf
    exact .short rfl
  · subst hr
    exact .short rfl
  · exact .digits (UInt8.not_le.mp hplain)

/-- The four digits of a control character. -/
theorem hexUnit_control {b : UInt8} (h : b < 0x20) (s : Bytes) :
    hexUnit (ascii '0' :: ascii '0' :: hexByte (b.toNat / 16) :: hexByte (b.toNat % 16) :: s)
      = .ok (b.toNat, s) := by
  have hb : b.toNat < 32 := h
  have hzero : Ascii.hexValue? (ascii '0') = some 0 := rfl
  unfold hexUnit
  simp only [hzero, hexValue?_hexByte _ (show b.toNat / 16 < 16 by omega),
    hexValue?_hexByte _ (show b.toNat % 16 < 16 by omega)]
  congr 2
  omega

/-- The escape of a control character is read as that character; it is no half of a surrogate pair. -/
theorem unicodeEscape_control {b : UInt8} (h : b < 0x20) (s : Bytes) :
    unicodeEscape (ascii '0' :: ascii '0' :: hexByte (b.toNat / 16) :: hexByte (b.toNat % 16) :: s)
      = .ok ([b], s) := by
  have hb : b.toNat < 32 := h
  unfold unicodeEscape
  rw [hexUnit_control h]
  simp only
  rw [if_neg (by omega), if_pos (by omega), utf8_control _ hb, UInt8.ofNat_toNat]

/-- An escape is one step of reading a string. -/
theorem stringStep_escape (acc : Bytes) {s r w : Bytes} (h : escapeSequence s = .ok (w, r)) :
    (stringStep acc).run (ascii '\\' :: s) = .ok (.inl (w.reverse ++ acc), r) := by
  have hquote : ascii '\\' ≠ ascii '"' := by decide
  simp only [stringStep, if_neg hquote, if_true, h]

/-- **Bytes.**  A byte as it is written is one step of reading a string. -/
theorem stringStep_escapeByte (acc s : Bytes) (b : UInt8) :
    (stringStep acc).run (escapeByte b ++ s) = .ok (.inl (b :: acc), s) := by
  have hwritten := written_escapeByte b
  generalize escapeByte b = bytes at hwritten
  cases hwritten with
  | plain hquote hslash hcontrol =>
    simp only [List.cons_append, List.nil_append, stringStep, if_neg hquote, if_neg hslash,
      if_neg hcontrol]
  | @short c h =>
    have hshort : escapeSequence (c :: s) = .ok ([b], s) := by
      simp only [escapeSequence, h]
    exact stringStep_escape acc hshort
  | digits h =>
    have hunit : ∀ t, escapeSequence (ascii 'u' :: t) = unicodeEscape t := fun _ => rfl
    exact stringStep_escape acc ((hunit _).trans (unicodeEscape_control h s))

/-- The bytes between the quotes are read back, up to the closing quote. -/
theorem loopFrom_escapeBytes (acc bytes rest : Bytes) :
    Reader.loopFrom stringStep acc (bytes.flatMap escapeByte ++ ascii '"' :: rest)
      = .ok (acc.reverse ++ bytes, rest) := by
  induction bytes generalizing acc with
  | nil =>
    rw [Reader.loopFrom_eq, List.append_nil]
    rfl
  | cons b bytes ih =>
    rw [Reader.loopFrom_eq, List.flatMap_cons, List.append_assoc, stringStep_escapeByte]
    simp only
    rw [ih, List.reverse_cons, List.append_assoc]
    rfl

/-- **Strings.**  A text between quotes is read back, behind its opening quote. -/
theorem string_quoted (t : String) (rest : Bytes) :
    string.run ((Bytes.ofText t).flatMap escapeByte ++ ascii '"' :: rest) = .ok (t, rest) := by
  have hbytes : unescape.run ((Bytes.ofText t).flatMap escapeByte ++ ascii '"' :: rest)
      = .ok (Bytes.ofText t, rest) := loopFrom_escapeBytes [] _ rest
  simp only [string, hbytes, Bytes.text?_ofText]

/-! ## Values -/

/-- A text starts with a byte that is neither a blank nor the closing bracket of a container. -/
def Starts (f : Frame) (s : Bytes) : Prop :=
  ∃ b t, s = b :: t ∧ isBlank b = false ∧ b ≠ f.close

/-- **Reading back.**  The reader takes the compact text of `v` off a text and gives `a`. -/
structure Reads {α : Type} (p : Read α) (v : Value) (a : α) : Prop where
  starts : ∀ depth, Starts .list (v.print compact depth)
  run : ∀ depth rest, Detached rest → p.run (v.print compact depth ++ rest) = .ok (a, rest)

variable {α β : Type}

theorem map_run {p : Read α} {s r : Bytes} {a : α} (h : p.run s = .ok (a, r)) (f : α → β) :
    (p.map f).run s = .ok (f a, r) := by
  simp only [Reader.map, h]

theorem bind_run {p : Read α} {s r : Bytes} {a : α} (h : p.run s = .ok (a, r)) (f : α → Read β) :
    (p.bind f).run s = (f a).run r := by
  simp only [Reader.bind, h]

theorem skipBlank_cons {b : UInt8} (h : isBlank b = false) (s : Bytes) :
    skipBlank (b :: s) = b :: s := by
  rw [skipBlank, h]
  rfl

/-- A text that is the compact text of a value, from end to end, is read as that value: nothing is left
behind it. -/
theorem Reads.whole {p : Read α} {v : Value} {a : α} (h : Reads p v a) :
    Json.whole p v.encode = .ok a := by
  have hrun := h.run 0 [] (by rintro _ ⟨⟩)
  rw [List.append_nil] at hrun
  simp only [Json.whole, Value.encode, hrun]
  rfl

/-- A value read back may be changed. -/
theorem Reads.map {p : Read α} {v : Value} {a : α} (h : Reads p v a) (f : α → β) :
    Reads (p.map f) v (f a) where
  starts := h.starts
  run depth rest hrest := map_run (h.run depth rest hrest) f

/-- A text is read back: each of its bytes is written in a way that a string is read from, and the
closing quote is none of them. -/
theorem reads_text (t : String) : Reads text (.string t) t where
  starts depth := ⟨ascii '"', _, rfl, rfl, by decide⟩
  run depth rest _ := by
    have hquote : skipBlank ((Value.string t).print compact depth ++ rest)
        = ascii '"' :: ((Bytes.ofText t).flatMap escapeByte ++ ascii '"' :: rest) := by
      simp only [Value.print, quotedString, List.cons_append, List.append_assoc, List.nil_append]
      rfl
    simp only [text, leading, hquote, if_true, string_quoted]

/-! ## Containers -/

theorem Starts.append {f : Frame} {s : Bytes} (h : Starts f s) (t : Bytes) : Starts f (s ++ t) := by
  obtain ⟨b, s, rfl, hb, hclose⟩ := h
  exact ⟨b, s ++ t, rfl, hb, hclose⟩

/-- Where a closing bracket stands the container is done, before its first item as behind one. -/
theorem next_close (f : Frame) (first : Bool) (rest : Bytes) :
    f.next first (f.close :: rest) = .ok (.done rest) := by
  cases f <;> rfl

/-- What starts an item behind a comma starts one at the front of a container. -/
theorem next_front {f : Frame} {s : Bytes} (h : Starts f s) :
    f.next true s = f.next false (ascii ',' :: s) := by
  obtain ⟨b, t, rfl, hb, hclose⟩ := h
  have hcomma : ascii ',' ≠ f.close := by cases f <;> decide
  have hblank : isBlank (ascii ',') = false := by decide
  simp only [Frame.next, skipBlank_cons hb, skipBlank_cons hblank, if_neg hclose, if_neg hcomma,
    if_true, Bool.false_eq_true, if_false]

/-- Behind a comma a list goes on with the item that starts there. -/
theorem next_item {s : Bytes} (h : Starts .list s) :
    Frame.list.next false (ascii ',' :: s) = .ok (.item s) := by
  rw [← next_front h]
  obtain ⟨b, t, rfl, hb, hclose⟩ := h
  simp only [Frame.next, skipBlank_cons hb, if_neg hclose, if_true, Frame.start]

theorem next_member (s : Bytes) :
    Frame.object.next false (ascii ',' :: ascii '"' :: s) = .ok (.item s) := rfl

/-- Reading the parts of a container is the same at the front as behind a comma. -/
theorem loopFrom_front {f : Frame} {item : α → Read α} {x : α} {s : Bytes} (h : Starts f s) :
    Reader.loopFrom (gatherStep f item) (true, x) s
      = Reader.loopFrom (gatherStep f item) (false, x) (ascii ',' :: s) := by
  rw [Reader.loopFrom_eq, Reader.loopFrom_eq]
  simp only [gatherStep, next_front h]

/-- One item is read, and then the ones behind it, with the item on top of those gathered so far. -/
theorem loopFrom_item {f : Frame} {item : α → Read α} {first : Bool} {x y : α} {s r t : Bytes}
    (hnext : f.next first s = .ok (.item r)) (hitem : (item x).run r = .ok (y, t)) :
    Reader.loopFrom (gatherStep f item) (first, x) s
      = Reader.loopFrom (gatherStep f item) (false, y) t := by
  rw [Reader.loopFrom_eq]
  simp only [gatherStep, hnext, hitem]

theorem loopFrom_close {f : Frame} {item : α → Read α} {first : Bool} {x : α} {rest : Bytes} :
    Reader.loopFrom (gatherStep f item) (first, x) (f.close :: rest) = .ok (x, rest) := by
  rw [Reader.loopFrom_eq]
  simp only [gatherStep, next_close]

/-! ## Lists -/

section

variable {item : Read α} {vs : List Value} {as : List α}

theorem printItems_cons (v : Value) (vs : List Value) (depth : Nat) (s : Bytes) :
    printItems compact depth (v :: vs) ++ s
      = ascii ',' :: (v.print compact depth ++ (printItems compact depth vs ++ s)) := by
  simp only [printItems, compact, List.nil_append, List.cons_append, List.append_assoc]

/-- Behind an item stands the comma of the next one, or what stands behind all of them. -/
theorem detached_items (vs : List Value) (depth : Nat) {s : Bytes} (hs : Detached s) :
    Detached (printItems compact depth vs ++ s) := by
  cases vs with
  | nil => exact hs
  | cons _ _ => exact detached_comma _

/-- The items of a list behind the ones in `acc`, which are in reverse. -/
theorem loopFrom_items (h : List.Forall₂ (Reads item) vs as) (depth : Nat) (acc : List α)
    (rest : Bytes) :
    Reader.loopFrom (gatherStep .list fun acc => item.map (· :: acc)) (false, acc)
        (printItems compact depth vs ++ Frame.list.close :: rest)
      = .ok (as.reverse ++ acc, rest) := by
  induction h generalizing acc with
  | nil => exact loopFrom_close
  | @cons v a vs as hv hvs ih =>
    have hbehind := detached_items vs depth (detached_close .list rest)
    rw [printItems_cons, loopFrom_item (next_item ((hv.starts depth).append _))
      ((hv.map (· :: acc)).run depth _ hbehind), ih, List.reverse_cons, List.append_assoc]
    rfl

/-- The items of a list behind its bracket. -/
theorem listItems_run (h : List.Forall₂ (Reads item) vs as) (depth : Nat) (rest : Bytes) :
    ∃ s, (Value.array vs).print compact depth ++ rest = ascii '[' :: s ∧
      (listItems item).run s = .ok (as, rest) := by
  -- items are gathered in reverse, so the loop is followed to that and turned round at the end
  suffices hloop : ∃ s, (Value.array vs).print compact depth ++ rest = ascii '[' :: s ∧
      Reader.loopFrom (gatherStep .list fun acc => item.map (· :: acc)) (true, []) s
        = .ok (as.reverse, rest) by
    obtain ⟨s, hs, hloop⟩ := hloop
    have hrun : (listItems item).run s = .ok (as.reverse.reverse, rest) :=
      map_run hloop List.reverse
    exact ⟨s, hs, as.reverse_reverse ▸ hrun⟩
  cases h with
  | nil => exact ⟨Frame.list.close :: rest, rfl, loopFrom_close⟩
  | @cons v a vs as hv hvs =>
    have hitems := loopFrom_items (.cons hv hvs) (depth + 1) [] rest
    rw [List.append_nil] at hitems
    refine ⟨v.print compact (depth + 1) ++
      (printItems compact (depth + 1) vs ++ Frame.list.close :: rest), ?_, ?_⟩
    · simp only [Value.print, compact, List.nil_append, List.cons_append, List.append_assoc]
      rfl
    · rw [loopFrom_front ((hv.starts _).append _), ← hitems, printItems_cons]

theorem starts_array (vs : List Value) (depth : Nat) :
    Starts .list ((Value.array vs).print compact depth) := by
  cases vs <;> exact ⟨ascii '[', _, rfl, rfl, by decide⟩

/-- A list is read back if its items are, one by one, in the order in which they were printed. -/
theorem reads_list {value : α → Value} (h : ∀ a ∈ as, Reads item (value a) a) :
    Reads (list item) (.array (as.map value)) as where
  starts := starts_array _
  run depth rest _ := by
    have hitems : List.Forall₂ (Reads item) (as.map value) as :=
      List.forall₂_map_left_iff.mpr (List.forall₂_same.mpr h)
    obtain ⟨s, hs, hrun⟩ := listItems_run hitems depth rest
    rw [hs]
    exact hrun

/-- A list that may be `null` is read back like any other. -/
theorem reads_listOrNull {value : α → Value} (h : ∀ a ∈ as, Reads item (value a) a) :
    Reads (listOrNull item) (.array (as.map value)) as where
  starts := starts_array _
  run depth rest hrest := by
    rw [← (reads_list h).run depth rest hrest]
    cases as <;> rfl

end

/-! ## Objects -/

/-- Reading members one after the other changes `x` to `z`. -/
inductive Takes (item : α → Read α) : α → List (String × Value) → α → Prop
  | nil {x} : Takes item x [] x
  | cons {x y z name v ms} :
    (∀ depth rest, Detached rest →
      (item x).run ((Bytes.ofText name).flatMap escapeByte
        ++ ascii '"' :: ascii ':' :: (v.print compact depth ++ rest)) = .ok (y, rest)) →
    Takes item y ms z → Takes item x ((name, v) :: ms) z

section

variable {item : α → Read α} {x z : α} {ms : List (String × Value)}

theorem printMembers_cons (name : String) (v : Value) (ms : List (String × Value)) (depth : Nat)
    (s : Bytes) :
    printMembers compact depth ((name, v) :: ms) ++ s
      = ascii ',' :: (quotedString name ++ ascii ':' :: (v.print compact depth
        ++ (printMembers compact depth ms ++ s))) := by
  simp only [printMembers, compact, List.nil_append, List.cons_append, List.append_assoc]

/-- Behind a member stands the comma of the next one, or what stands behind all of them. -/
theorem detached_members (ms : List (String × Value)) (depth : Nat) {s : Bytes}
    (hs : Detached s) : Detached (printMembers compact depth ms ++ s) := by
  cases ms with
  | nil => exact hs
  | cons _ _ => exact detached_comma _

/-- The members of an object behind others, by induction on them: each is read behind its comma. -/
theorem loopFrom_members (h : Takes item x ms z) (depth : Nat) {s : Bytes} (hs : Detached s) :
    Reader.loopFrom (gatherStep .object item) (false, x) (printMembers compact depth ms ++ s)
      = Reader.loopFrom (gatherStep .object item) (false, z) s := by
  induction h with
  | nil => rfl
  | @cons x y z name v ms hrun hms ih =>
    have hmember := hrun depth _ (detached_members ms depth hs)
    rw [← ih, printMembers_cons]
    simp only [quotedString, List.cons_append, List.append_assoc, List.nil_append]
    exact loopFrom_item (next_member _) hmember

/-- Reading the members of an object behind its bracket is the same as behind others. -/
theorem gather_front (item : α → Read α) (x : α) (ms : List (String × Value)) (depth : Nat)
    (rest : Bytes) :
    ∃ s, (Value.object ms).print compact depth ++ rest = ascii '{' :: s ∧
      (gather .object item x).run s = Reader.loopFrom (gatherStep .object item) (false, x)
        (printMembers compact (depth + 1) ms ++ Frame.object.close :: rest) := by
  cases ms with
  | nil => exact ⟨Frame.object.close :: rest, rfl, loopFrom_close.trans loopFrom_close.symm⟩
  | cons member ms =>
    obtain ⟨name, v⟩ := member
    refine ⟨quotedString name ++ ascii ':' :: (v.print compact (depth + 1)
      ++ (printMembers compact (depth + 1) ms ++ Frame.object.close :: rest)), ?_, ?_⟩
    · simp only [Value.print, compact, List.nil_append, List.cons_append, List.append_assoc]
      rfl
    · have hstarts : Starts .object (quotedString name) := ⟨ascii '"', _, rfl, rfl, by decide⟩
      rw [printMembers_cons]
      exact loopFrom_front (hstarts.append _)

/-- The members of an object behind its bracket: the first one has no comma in front. -/
theorem gather_members (h : Takes item x ms z) (depth : Nat) (rest : Bytes) :
    ∃ s, (Value.object ms).print compact depth ++ rest = ascii '{' :: s ∧
      (gather .object item x).run s = .ok (z, rest) := by
  obtain ⟨s, hs, hrun⟩ := gather_front item x ms depth rest
  refine ⟨s, hs, ?_⟩
  rw [hrun, loopFrom_members h (depth + 1) (detached_close .object rest), loopFrom_close]

theorem starts_object (ms : List (String × Value)) (depth : Nat) :
    Starts .list ((Value.object ms).print compact depth) := by
  cases ms <;> exact ⟨ascii '{', _, rfl, rfl, by decide⟩

/-- A member is taken if its name is, and then its value behind the colon. -/
theorem colon_bind_run {p : Read α} {s r : Bytes} {a : α} (h : p.run s = .ok (a, r)) :
    (colon.bind fun _ => p).run (ascii ':' :: s) = .ok (a, r) := by
  have hcolon : colon.run (ascii ':' :: s) = .ok ((), s) := rfl
  rw [bind_run hcolon, h]

end

/-! ## Properties -/

section

variable {ρ : Type} (name : String)

theorem reads_textProperty (get : ρ → String) (set : String → ρ → ρ) (r : ρ) :
    Reads (Property.text name get set).read ((Property.text name get set).value r) (set (get r)) :=
  (reads_text (get r)).map set

/-- A property that is a list is read back if each of its items is. -/
theorem reads_listProperty {item : Read α} {value : α → Value} (get : ρ → List α)
    (set : List α → ρ → ρ) {r : ρ} (h : ∀ a ∈ get r, Reads item (value a) a) :
    Reads (Property.list name item value get set).read
      ((Property.list name item value get set).value r) (set (get r)) :=
  (reads_list h).map set

end

/-! ## Structures -/

section

variable {ρ : Type} {schema : Schema ρ}

/-- A member of an object is read back: the change it makes, and its name among those that
occurred. -/
theorem member_run {f : Property ρ} {change : ρ → ρ} {v : Value} (hf : Reads f.read v change)
    (hfind : schema.properties.find? (·.name = f.name) = some f) {p : Partial ρ}
    (hnew : f.name ∉ p.seen) (depth : Nat) {rest : Bytes} (hrest : Detached rest) :
    (schema.member p).run ((Bytes.ofText f.name).flatMap escapeByte
        ++ ascii '"' :: ascii ':' :: (v.print compact depth ++ rest))
      = .ok (⟨change p.value, f.name :: p.seen⟩, rest) := by
  unfold Schema.member
  rw [bind_run (string_quoted f.name _)]
  simp only [hfind, if_neg hnew]
  exact colon_bind_run (map_run (hf.run depth rest hrest) _)

/-- What the properties of a structure are read back as: each a change to the structure. -/
inductive ReadsBack (r : ρ) : List (Property ρ) → List (ρ → ρ) → Prop
  | nil : ReadsBack r [] []
  | cons {f fs change changes} : Reads f.read (f.value r) change → ReadsBack r fs changes →
    ReadsBack r (f :: fs) (change :: changes)

/-- The members of an object, as they are written. -/
def membersOf (r : ρ) (fs : List (Property ρ)) : List (String × Value) :=
  fs.map fun f => (f.name, f.value r)

/-- Members of different names are taken one after the other, behind others. -/
theorem takes_members {r : ρ} {fs : List (Property ρ)} {changes : List (ρ → ρ)}
    (h : ReadsBack r fs changes)
    (hfind : ∀ f ∈ fs, schema.properties.find? (·.name = f.name) = some f)
    (hnodup : (fs.map (·.name)).Nodup) (p : Partial ρ) (hnew : ∀ f ∈ fs, f.name ∉ p.seen) :
    Takes schema.member p (membersOf r fs)
      ⟨changes.foldl (fun x change => change x) p.value,
        (fs.map (·.name)).reverse ++ p.seen⟩ := by
  induction h generalizing p with
  | nil => exact .nil
  | @cons f fs change changes hf hfs ih =>
    obtain ⟨hfindf, hfindfs⟩ := List.forall_mem_cons.mp hfind
    obtain ⟨hnewf, hnewfs⟩ := List.forall_mem_cons.mp hnew
    obtain ⟨hout, hnodup⟩ := List.nodup_cons.mp hnodup
    -- the names differ, so the one that was just seen is none of the others
    have hnewfs : ∀ g ∈ fs, g.name ∉ f.name :: p.seen := by
      intro g hg hmem
      rcases List.mem_cons.mp hmem with he | hmem
      · exact hout (List.mem_map.mpr ⟨g, hg, he⟩)
      · exact hnewfs g hg hmem
    have hrest := ih hfindfs hnodup ⟨change p.value, f.name :: p.seen⟩ hnewfs
    rw [List.foldl_cons, List.map_cons, List.reverse_cons, List.append_assoc]
    exact .cons (fun depth rest => member_run hf hfindf hnewf depth) hrest

/-- A property of a list without repeated names is the one that its name finds. -/
theorem find?_name {fs : List (Property ρ)} (hnodup : (fs.map (·.name)).Nodup) {f : Property ρ}
    (hf : f ∈ fs) : fs.find? (·.name = f.name) = some f := by
  induction fs with
  | nil => cases hf
  | cons g fs ih =>
    obtain ⟨hout, hnodup⟩ := List.nodup_cons.mp hnodup
    rcases List.mem_cons.mp hf with rfl | hf
    · exact List.find?_cons_of_pos (decide_eq_true rfl)
    · have hne : g.name ≠ f.name := fun he => hout (List.mem_map.mpr ⟨f, hf, he.symm⟩)
      rw [List.find?_cons_of_neg (by simpa using hne), ih hnodup hf]

/-- Where every property occurred, none is missing, required or not. -/
theorem finish_seen {p : Partial ρ} (h : ∀ f ∈ schema.properties, f.name ∈ p.seen) :
    schema.finish p = .ok p.value := by
  have hnone : (schema.properties.find? fun f => f.required && !p.seen.contains f.name) = none := by
    refine List.find?_eq_none.mpr fun f hf => ?_
    simp [h f hf]
  simp only [Schema.finish, hnone]

/-- Where no property is required, none is missing. -/
theorem finish_optional (h : ∀ f ∈ schema.properties, f.required = false) (p : Partial ρ) :
    schema.finish p = .ok p.value := by
  have hnone : (schema.properties.find? fun f => f.required && !p.seen.contains f.name) = none := by
    refine List.find?_eq_none.mpr fun f hf => ?_
    simp [h f hf]
  simp only [Schema.finish, hnone]

/-- An object is read as what its members make of the empty structure, if nothing is missing. -/
theorem reads_members {ms : List (String × Value)} {p : Partial ρ} {x : ρ}
    (h : Takes schema.member ⟨schema.empty, []⟩ ms p) (hfinish : schema.finish p = .ok x) :
    Reads schema.read (.object ms) x where
  starts := starts_object _
  run depth rest _ := by
    obtain ⟨s, hs, hgather⟩ := gather_members h depth rest
    have hrun : schema.fromObject.run s = .ok (x, rest) := by
      simp only [Schema.fromObject, hgather, hfinish]
      rfl
    rw [hs]
    exact hrun

/-- **Structures.**  A structure is read back as what the changes of its properties make of the
empty one. -/
theorem reads_schema {r : ρ} {changes : List (ρ → ρ)} (h : ReadsBack r schema.properties changes)
    (hnodup : (schema.properties.map (·.name)).Nodup) :
    Reads schema.read (schema.value r)
      (changes.foldl (fun x change => change x) schema.empty) := by
  have htakes := takes_members h (fun f hf => find?_name hnodup hf) hnodup ⟨schema.empty, []⟩
    fun _ _ => List.not_mem_nil
  refine reads_members htakes (finish_seen fun f hf => ?_)
  exact List.mem_append_left _ (List.mem_reverse.mpr (List.mem_map_of_mem hf))

end

end ThreatLedger.Json
