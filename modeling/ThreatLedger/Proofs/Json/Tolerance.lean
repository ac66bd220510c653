/-
  A structure is read from every text that its members have.

  1. **Strings** — each way of writing a character gives its bytes, so a string is read as the text that
     it means, by induction on the characters.
  2. **Types** — `ReadsText p v a` says that `p` takes `v` off a text and gives `a`, whatever blanks
     stand before it and whatever delimiter behind it.
  3. **Containers** — `ReadsIn f item i step` says that reading the item `i` where it stands does what
     `step` says, and leaves nothing of it but blanks.  So reading a container is doing the steps of its
     items in turn, the refusals among them included (`gather_items`).
  4. **Members** — the step of a member that is known is `note`: it is refused if its name has occurred,
     and otherwise it changes the structure.  The names that have occurred are what the loop carries.
  5. **Structures** — a structure is what its members make of the empty one (`parse_members`), or what
     the items of a list do in the order of the properties (`parse_items`).
-/
import ThreatLedger.Proofs.Json.Passing
import ThreatLedger.Proofs.Json.Texts

namespace ThreatLedger.Json

/-! ## Strings -/

/-- A character that needs no escape is written in bytes that need none. -/
theorem utf8_plain {c : Char} (hquote : c ≠ '"') (hslash : c ≠ '\\') (hcontrol : 0x20 ≤ c.toNat) :
    ∀ b ∈ String.utf8EncodeChar c, b ≠ ascii '"' ∧ b ≠ ascii '\\' ∧ ¬b < 0x20 := by
  rcases Nat.lt_or_ge c.toNat 128 with hlt | hge
  · have hnat : (UInt8.ofNat c.toNat).toNat = c.toNat := by
      rw [UInt8.toNat_ofNat']
      omega
    -- an ASCII character is the byte of its own number, so different ones have different bytes
    have hne : ∀ d : Char, d.toNat < 128 → c ≠ d → UInt8.ofNat c.toNat ≠ ascii d := by
      intro d hd hcd h
      have hnats : c.toNat = d.toNat % 256 := by
        rw [← hnat, h]
        rfl
      exact hcd (Char.toNat_inj.mp (by omega))
    rw [Bytes.utf8_of_lt hlt, List.forall_mem_singleton, UInt8.lt_iff_toNat_lt, hnat]
    exact ⟨hne _ (by decide) hquote, hne _ (by decide) hslash, Nat.not_lt.mpr hcontrol⟩
  · -- all bytes of a longer encoding are from 128 on, beyond quotes and control characters
    intro b hb
    have hb := Bytes.le_utf8_of_le hge b hb
    refine ⟨?_, ?_, fun h => UInt8.not_le.mpr h (UInt8.le_trans (by decide) hb)⟩
    all_goals
      rintro rfl
      exact absurd hb (by decide)

/-- Bytes that need no escape are read as they stand, one step a byte. -/
theorem loopFrom_plain {bytes : Bytes}
    (h : ∀ b ∈ bytes, b ≠ ascii '"' ∧ b ≠ ascii '\\' ∧ ¬b < 0x20) (acc s : Bytes) :
    Reader.loopFrom stringStep acc (bytes ++ s)
      = Reader.loopFrom stringStep (bytes.reverse ++ acc) s := by
  induction bytes generalizing acc with
  | nil => rfl
  | cons b bytes ih =>
    obtain ⟨⟨hquote, hslash, hcontrol⟩, hbytes⟩ := List.forall_mem_cons.mp h
    have hstep : (stringStep acc).run (b :: (bytes ++ s)) = .ok (.inl (b :: acc), bytes ++ s) := by
      simp only [stringStep, if_neg hquote, if_neg hslash, if_neg hcontrol]
    rw [Reader.loopFrom_eq, List.cons_append, hstep]
    simp only
    rw [ih hbytes, List.reverse_cons, List.append_assoc, List.singleton_append]

theorem loopFrom_escape {s r w : Bytes} (h : escapeSequence s = .ok (w, r)) (acc : Bytes) :
    Reader.loopFrom stringStep acc (ascii '\\' :: s)
      = Reader.loopFrom stringStep (w.reverse ++ acc) r := by
  rw [Reader.loopFrom_eq, stringStep_escape acc h]

/-- The model's own encoding of a code point is that of the library. -/
theorem utf8_toNat (c : Char) : utf8 c.toNat = String.utf8EncodeChar c := by
  rw [utf8, Char.ofNat_toNat]

theorem utf8_shortEscapes : ∀ p ∈ shortEscapes, String.utf8EncodeChar p.2 = [ascii p.2] := by decide

/-- However a character is written, its bytes are read: as it stands, by a short escape, by its unit, or
by the pair of its surrogates. -/
theorem loopFrom_char {c : Char} {w : Bytes} (h : Spells c w) (acc s : Bytes) :
    Reader.loopFrom stringStep acc (w ++ s)
      = Reader.loopFrom stringStep ((String.utf8EncodeChar c).reverse ++ acc) s := by
  have hlong : ∀ t, escapeSequence (ascii 'u' :: t) = unicodeEscape t := fun _ => rfl
  cases h with
  | plain hquote hslash hcontrol => exact loopFrom_plain (utf8_plain hquote hslash hcontrol) acc s
  | @short e he =>
    have hescape : escapeSequence (e :: s) = .ok ([ascii c], s) := by
      simp only [escapeSequence, shortEscape?_of_mem _ he]
    rw [utf8_shortEscapes _ he]
    exact loopFrom_escape hescape acc
  | @unit ds hds =>
    have hvalid : c.toNat < 0xd800 ∨ 0xdfff < c.toNat := c.valid.imp_right And.left
    have hescape : unicodeEscape (ds ++ s) = .ok (String.utf8EncodeChar c, s) := by
      simp only [unicodeEscape, hexUnit_fourDigits hds]
      rw [if_neg (by omega), if_pos hvalid, utf8_toNat]
    exact loopFrom_escape ((hlong _).trans hescape) acc
  -- the two units are put together only if they are the halves of one pair
  | @pair ds es lead trail hds hes _ _ _ _ hc =>
    have htrail : trailingUnit (ascii '\\' :: ascii 'u' :: (es ++ s)) = .ok (trail, s) := by
      simp only [trailingUnit, if_true, hexUnit_fourDigits hes]
    have hescape : unicodeEscape (ds ++ ascii '\\' :: ascii 'u' :: (es ++ s))
        = .ok (String.utf8EncodeChar c, s) := by
      simp only [unicodeEscape, hexUnit_fourDigits hds, htrail]
      rw [if_neg (by omega), if_neg (by omega), if_pos (by omega), ← hc, utf8_toNat]
    simp only [List.cons_append, List.append_assoc]
    exact loopFrom_escape ((hlong _).trans hescape) acc

/-- By induction on the spelling: whether its characters stand for themselves or are escaped, a string
means the same. -/
theorem loopFrom_spelled {cs : List Char} {w : Bytes} (h : Spelled cs w) (acc s : Bytes) :
    Reader.loopFrom stringStep acc (w ++ s)
      = Reader.loopFrom stringStep ((cs.flatMap String.utf8EncodeChar).reverse ++ acc) s := by
  induction h generalizing acc with
  | nil => rfl
  | cons hc _ ih =>
    rw [List.append_assoc, loopFrom_char hc, ih, List.flatMap_cons, List.reverse_append,
      List.append_assoc]

/-- **Strings.**  However a text is written, it is read up to the closing quote. -/
theorem string_spelled {t : String} {w : Bytes} (h : Spelled t.toList w) (rest : Bytes) :
    string.run (w ++ ascii '"' :: rest) = .ok (t, rest) := by
  have hclose : ∀ acc,
      Reader.loopFrom stringStep acc (ascii '"' :: rest) = .ok (acc.reverse, rest) := by
    intro acc
    rw [Reader.loopFrom_eq]
    rfl
  have hbytes : unescape.run (w ++ ascii '"' :: rest) = .ok (Bytes.ofText t, rest) := by
    show Reader.loopFrom stringStep [] _ = _
    rw [loopFrom_spelled h, hclose, List.append_nil, List.reverse_reverse, Bytes.ofText_eq]
  simp only [string, hbytes, Bytes.text?_ofText]

/-! ## Types -/

/-- **Reading.**  Behind blanks, the reader takes `v` off a text and gives `a`. -/
structure ReadsText {α : Type} (p : Read α) (v : Bytes) (a : α) : Prop where
  starts : Starts .list v
  run : ∀ w rest, Blank w → Detached rest → p.run (w ++ (v ++ rest)) = .ok (a, rest)

variable {α β : Type}

theorem ReadsText.map {p : Read α} {v : Bytes} {a : α} (h : ReadsText p v a) (f : α → β) :
    ReadsText (p.map f) v (f a) where
  starts := h.starts
  run w rest hw hrest := map_run (h.run w rest hw hrest) f

theorem starts_quoted (w : Bytes) : Starts .list (quoted w) := ⟨_, _, rfl, rfl, by decide⟩

/-- A text is read from each of its spellings. -/
theorem readsText_text {t : String} {s : Bytes} (h : StringText t s) : ReadsText text s t := by
  obtain ⟨w, hw, rfl⟩ := h
  refine ⟨starts_quoted w, fun u rest hu _ => ?_⟩
  have hquote : skipBlank (u ++ (quoted w ++ rest)) = ascii '"' :: (w ++ ascii '"' :: rest) := by
    rw [skipBlank_append hu, quoted, List.cons_append, List.append_assoc, List.singleton_append]
    exact skipBlank_cons rfl _
  simp only [text, leading, hquote, if_true, string_spelled hw]

/-! ## Containers -/

/-- Steps one after the other, up to the first that is refused. -/
def inTurn (steps : List (α → Except Error α)) (x : α) : Except Error α :=
  steps.foldlM (fun y step => step y) x

/-- The steps of a container are taken one after the other, up to the first that fails. -/
theorem inTurn_cons (step : α → Except Error α) (steps : List (α → Except Error α)) (x : α) :
    inTurn (step :: steps) x = (step x).bind (inTurn steps) := rfl

/-- **Items.**  Reading an item does what `step` says, and leaves nothing of it but blanks. -/
structure ReadsIn (f : Frame) (item : α → Read α) (i : Bytes) (step : α → Except Error α) : Prop where
  opens : Opens f i
  run : ∀ x rest, Detached rest → ∃ r u, f.next true (i ++ rest) = .ok (.item r) ∧ Blank u ∧
    (item x).run r = (step x).map (·, u ++ rest)

section

variable {f : Frame} {item : α → Read α}

theorem next_blank {w : Bytes} (hw : Blank w) (first : Bool) (s : Bytes) :
    f.next first (w ++ s) = f.next first s := by
  simp only [Frame.next, skipBlank_append hw]

/-- What stands behind a comma is found as at the front of a container. -/
theorem next_comma {i : Bytes} (h : Opens f i) (rest : Bytes) :
    f.next false (ascii ',' :: (i ++ rest)) = f.next true (i ++ rest) := by
  obtain ⟨w, s, hw, hs, rfl⟩ := h
  have hcomma : ascii ',' ≠ f.close := by cases f <;> decide
  have hblank : isBlank (ascii ',') = false := by decide
  rw [List.append_assoc, next_blank hw, next_front (hs.append rest)]
  simp only [Frame.next, skipBlank_cons hblank, if_neg hcomma, Bool.false_eq_true, if_false, if_true,
    skipBlank_append hw]

/-- Blanks between the items of a container make no difference to what is gathered. -/
theorem loopFrom_blank {w : Bytes} (hw : Blank w) (state : Bool × α) (s : Bytes) :
    Reader.loopFrom (gatherStep f item) state (w ++ s)
      = Reader.loopFrom (gatherStep f item) state s := by
  rw [Reader.loopFrom_eq, Reader.loopFrom_eq]
  simp only [gatherStep, next_blank hw]

/-- Behind an item, reading the others folds their steps, in turn, until one of them is refused or the
bracket is reached. -/
theorem loopFrom_others {items : List Bytes} {steps : List (α → Except Error α)}
    (h : List.Forall₂ (ReadsIn f item) items steps) (x : α) (rest : Bytes) :
    Reader.loopFrom (gatherStep f item) (false, x) (others items ++ f.close :: rest)
      = (inTurn steps x).map (·, rest) := by
  induction h generalizing x with
  | nil => exact loopFrom_close
  | @cons i step items steps hi _ ih =>
    obtain ⟨r, u, hnext, hu, hrun⟩ := hi.run x _ (detached_others items (detached_close f rest))
    rw [others_cons, Reader.loopFrom_eq]
    simp only [gatherStep, next_comma hi.opens, hnext, hrun, inTurn_cons]
    -- a refusal ends the loop; otherwise the blanks behind the item are skipped before the next one
    cases step x with
    | error e => rfl
    | ok y => exact (loopFrom_blank hu _ _).trans (ih y)

/-- **Containers.**  Reading what stands in a container folds the steps of its items. -/
theorem gather_items {items : List Bytes} {steps : List (α → Except Error α)}
    (h : List.Forall₂ (ReadsIn f item) items steps) {w : Bytes} (hw : Blank w) (x : α) (rest : Bytes) :
    (gather f item x).run (between w items ++ f.close :: rest)
      = (inTurn steps x).map (·, rest) := by
  show Reader.loopFrom _ _ _ = _
  cases h with
  | nil => exact (loopFrom_blank hw _ _).trans loopFrom_close
  | @cons i step items steps hi hitems =>
    rw [← loopFrom_others (.cons hi hitems) x rest, others_cons, between, List.append_assoc,
      Reader.loopFrom_eq, Reader.loopFrom_eq]
    simp only [gatherStep, next_comma hi.opens]

end

theorem next_spaced {i : Spaced} (h : Starts .list i.part) (rest : Bytes) :
    Frame.list.next true (i.bytes ++ rest) = .ok (.item (i.part ++ (i.behind ++ rest))) := by
  rw [Spaced.bytes, List.append_assoc, List.append_assoc, next_blank i.blank_before,
    next_front (h.append _), next_item (h.append _)]

/-- A value with blanks around it is an item of a list. -/
theorem ReadsText.item {p : Read α} {i : Spaced} {a : α} (h : ReadsText p i.part a) :
    ReadsIn .list (fun acc => p.map (· :: acc)) i.bytes fun acc => .ok (a :: acc) where
  opens := opens_spaced h.starts
  run _ rest hrest :=
    ⟨_, i.behind, next_spaced h.starts rest, i.blank_behind,
      map_run (h.run [] _ blank_nil (detached_blank i.blank_behind hrest)) _⟩

/-- Items that are gathered in turn end up in their order, over what was there. -/
theorem inTurn_push (as acc : List α) :
    inTurn (as.map fun a acc => .ok (a :: acc)) acc = .ok (as.reverse ++ acc) := by
  induction as generalizing acc with
  | nil => rfl
  | cons a as ih =>
    rw [List.map_cons, inTurn_cons, List.reverse_cons, List.append_assoc]
    exact ih (a :: acc)

/-- Behind blanks, a container starts with its bracket. -/
theorem skipBlank_container (f : Frame) {u : Bytes} (hu : Blank u) (w : Bytes) (items : List Bytes)
    (rest : Bytes) : skipBlank (u ++ (container f w items ++ rest))
      = f.bracket :: (between w items ++ f.close :: rest) := by
  have hblank : isBlank f.bracket = false := by cases f <;> rfl
  rw [skipBlank_append hu, container, List.cons_append, List.append_assoc, List.singleton_append,
    skipBlank_cons hblank]

/-- A list is read if its items are, with any blanks between them. -/
theorem readsText_list {p : Read α} {items : List Spaced} {as : List α}
    (h : List.Forall₂ (fun i a => ReadsText p i.part a) items as) {w : Bytes} (hw : Blank w) :
    ReadsText (list p) (container .list w (items.map Spaced.bytes)) as where
  starts := ⟨_, _, rfl, rfl, by decide⟩
  run u rest hu _ := by
    have hitems : List.Forall₂ (ReadsIn .list fun acc => p.map (· :: acc)) (items.map Spaced.bytes)
        (as.map fun a acc => .ok (a :: acc)) :=
      List.forall₂_map_left_iff.mpr (List.forall₂_map_right_iff.mpr (h.imp fun _ _ h => h.item))
    have hgather := gather_items hitems hw [] rest
    rw [inTurn_push, List.append_nil] at hgather
    have hrun : (listItems p).run (between w (items.map Spaced.bytes) ++ Frame.list.close :: rest)
        = .ok (as.reverse.reverse, rest) := map_run hgather List.reverse
    rw [List.reverse_reverse] at hrun
    simp only [list, leading, skipBlank_container .list hu, Frame.bracket, if_true, hrun]

/-- A list that may be `null` is read like any other. -/
theorem ReadsText.orNull {p : Read α} {items : List Spaced} {w : Bytes} {as : List α}
    (h : ReadsText (list p) (container .list w (items.map Spaced.bytes)) as) :
    ReadsText (listOrNull p) (container .list w (items.map Spaced.bytes)) as where
  starts := h.starts
  run u rest hu hrest := by
    have hn : ascii '[' ≠ ascii 'n' := by decide
    have hrun := h.run [] rest blank_nil hrest
    rw [List.nil_append, container, List.cons_append, List.append_assoc, List.singleton_append] at hrun
    simp only [listOrNull, leading, skipBlank_container .list hu, Frame.bracket, if_neg hn]
    exact hrun

/-- `null` stands for an empty list where a list is read. -/
theorem readsText_null (p : Read α) : ReadsText (listOrNull p) nullLiteral [] where
  starts := ⟨_, _, rfl, rfl, by decide⟩
  run w rest hw _ := by
    have hnull : skipBlank (w ++ (nullLiteral ++ rest))
        = ascii 'n' :: ascii 'u' :: ascii 'l' :: ascii 'l' :: rest := by
      rw [skipBlank_append hw]
      rfl
    simp only [listOrNull, leading, hnull]
    rfl

/-! ## Members -/

section

variable {ρ : Type} {schema : Schema ρ}

/-- What a known member does: it changes the structure, if its name has not occurred. -/
def note (name : String) (change : ρ → ρ) (p : Partial ρ) : Except Error (Partial ρ) :=
  if name ∈ p.seen then .error (.duplicateField name)
  else .ok ⟨change p.value, name :: p.seen⟩

/-- A member of an object behind its name. -/
def Schema.behindName (schema : Schema ρ) (p : Partial ρ) (name : String) : Read (Partial ρ) :=
  match schema.properties.find? (·.name = name) with
  | none => colon.bind fun _ => passValue.map fun _ => p
  | some f =>
    if name ∈ p.seen then Reader.fail (.duplicateField name)
    else colon.bind fun _ => f.read.map fun set => ⟨set p.value, name :: p.seen⟩

theorem colon_bind_blank {w : Bytes} (hw : Blank w) (p : Read α) (s : Bytes) :
    (colon.bind fun _ => p).run (w ++ ascii ':' :: s) = p.run s :=
  bind_run (colon_blank hw s) _

/-- A member does what is done behind its name, which may be spelled in any way. -/
theorem readsIn_member {m : Member} {name : String} (hname : StringText name m.name.part)
    {step : Partial ρ → Except Error (Partial ρ)}
    (h : ∀ p rest, Detached rest → (schema.behindName p name).run (m.name.behind ++ ascii ':' ::
      (m.value.before ++ (m.value.part ++ rest))) = (step p).map (·, rest)) :
    ReadsIn .object schema.member m.bytes step := by
  obtain ⟨w, hw, hpart⟩ := hname
  rw [Member.bytes_quoted hpart]
  refine ⟨⟨_, _, m.name.blank_before, ⟨_, _, rfl, rfl, by decide⟩, rfl⟩, fun p rest hrest => ?_⟩
  refine ⟨w ++ ascii '"' :: (m.name.behind ++ ascii ':' :: (m.value.bytes ++ rest)),
    m.value.behind, ?_, m.value.blank_behind, ?_⟩
  · simp only [List.append_assoc, List.cons_append]
    rw [next_blank m.name.blank_before]
    rfl
  · have hmember : schema.member p = string.bind (schema.behindName p) := rfl
    rw [hmember, bind_run (string_spelled hw _), Spaced.bytes, List.append_assoc, List.append_assoc]
    exact h p _ (detached_blank m.value.blank_behind hrest)

/-- A member whose name a schema knows is read by the property of that name; names are without
repetition there, so it is the only one. -/
theorem readsIn_known {f : Property ρ} (hf : f ∈ schema.properties)
    (hnodup : (schema.properties.map (·.name)).Nodup) {m : Member}
    (hname : StringText f.name m.name.part) {change : ρ → ρ}
    (hvalue : ReadsText f.read m.value.part change) :
    ReadsIn .object schema.member m.bytes (note f.name change) := by
  refine readsIn_member hname fun p rest hrest => ?_
  simp only [Schema.behindName, find?_name hnodup hf, note]
  split
  · rfl
  · rw [colon_bind_blank m.name.blank_behind]
    exact map_run (hvalue.run _ rest m.value.blank_before hrest) _

/-- A member of another name leaves the structure as it is, whatever its value is. -/
theorem readsIn_unknown {m : Member} {name : String} (hname : StringText name m.name.part)
    (hunknown : ∀ f ∈ schema.properties, f.name ≠ name) (hvalue : ValueText m.value.part) :
    ReadsIn .object schema.member m.bytes .ok := by
  have hfind : schema.properties.find? (·.name = name) = none :=
    List.find?_eq_none.mpr fun f hf => by simpa using hunknown f hf
  refine readsIn_member hname fun p rest hrest => ?_
  simp only [Schema.behindName, hfind]
  rw [colon_bind_blank m.name.blank_behind]
  exact map_run ((passes_value hvalue).passValue_run m.value.blank_before hrest) _

/-- Members of different names that have not occurred all change the structure. -/
theorem inTurn_notes {changes : List (String × (ρ → ρ))} (hnodup : (changes.map (·.1)).Nodup)
    (p : Partial ρ) (hnew : ∀ c ∈ changes, c.1 ∉ p.seen) :
    ∃ q, inTurn (changes.map fun c => note c.1 c.2) p = .ok q ∧
      q.value = changes.foldl (fun x c => c.2 x) p.value := by
  induction changes generalizing p with
  | nil => exact ⟨p, rfl, rfl⟩
  | cons c changes ih =>
    obtain ⟨hout, hnodup⟩ := List.nodup_cons.mp hnodup
    obtain ⟨hc, hnew⟩ := List.forall_mem_cons.mp hnew
    have hothers : ∀ d ∈ changes, d.1 ∉ c.1 :: p.seen := by
      intro d hd hmem
      rcases List.mem_cons.mp hmem with he | hmem
      · exact hout (List.mem_map.mpr ⟨d, hd, he⟩)
      · exact hnew d hd hmem
    rw [List.map_cons, inTurn_cons, note, if_neg hc]
    exact ih hnodup ⟨c.2 p.value, c.1 :: p.seen⟩ hothers

/-- Where a name occurs twice, the second member of it is refused. -/
theorem inTurn_notes_repeated {changes : List (String × (ρ → ρ))} (p : Partial ρ)
    (h : ¬((changes.map (·.1)).Nodup ∧ ∀ c ∈ changes, c.1 ∉ p.seen)) :
    ∃ name, 2 ≤ (p.seen ++ changes.map (·.1)).count name ∧
      inTurn (changes.map fun c => note c.1 c.2) p = .error (.duplicateField name) := by
  induction changes generalizing p with
  | nil => exact absurd ⟨List.nodup_nil, fun _ => nofun⟩ h
  | cons c changes ih =>
    -- the name has been seen, or it is seen from now on and the repetition lies further behind
    by_cases hseen : c.1 ∈ p.seen
    · refine ⟨c.1, ?_, by rw [List.map_cons, inTurn_cons, note, if_pos hseen]; rfl⟩
      have hone := List.one_le_count_iff.mpr hseen
      rw [List.map_cons, List.count_append, List.count_cons_self]
      omega
    · have hothers : ¬((changes.map (·.1)).Nodup ∧ ∀ d ∈ changes, d.1 ∉ c.1 :: p.seen) := by
        rintro ⟨hnodup, hothers⟩
        refine h ⟨List.nodup_cons.mpr ⟨fun hmem => ?_, hnodup⟩, List.forall_mem_cons.mpr ⟨hseen,
          fun d hd hmem => hothers d hd (List.mem_cons_of_mem _ hmem)⟩⟩
        obtain ⟨d, hd, he⟩ := List.mem_map.mp hmem
        exact hothers d hd (he ▸ List.mem_cons_self)
      obtain ⟨name, hcount, hrun⟩ := ih ⟨c.2 p.value, c.1 :: p.seen⟩ hothers
      refine ⟨name, ?_, ?_⟩
      · rwa [List.map_cons, List.perm_middle.count_eq]
      · rw [List.map_cons, inTurn_cons, note, if_neg hseen]
        exact hrun

/-! ## Structures -/

/-- Nothing but blanks may stand behind a structure, and any of them may. -/
theorem whole_blank {p : Read ρ} {v : Bytes} (hv : Blank v) {s : Bytes} {result : Except Error ρ}
    (h : p.run s = result.map (·, v)) : whole p s = result := by
  have hbehind : skipBlank v = [] := by
    rw [← List.append_nil v, skipBlank_append hv]
    rfl
  simp only [whole, h]
  cases result with
  | error e => rfl
  | ok x => simp only [Except.map, hbehind, List.isEmpty_nil, if_true]

/-- **Objects.**  A structure is what the members of an object make of the empty one, in any blanks. -/
theorem parse_members {items : List Bytes} {steps : List (Partial ρ → Except Error (Partial ρ))}
    (h : List.Forall₂ (ReadsIn .object schema.member) items steps) {s : Spaced} {w : Bytes}
    (hw : Blank w) (hs : s.part = container .object w items) :
    schema.parse s.bytes = (inTurn steps ⟨schema.empty, []⟩).bind schema.finish := by
  refine whole_blank s.blank_behind ?_
  rw [Spaced.bytes, hs]
  simp only [Schema.read, leading, skipBlank_container .object s.blank_before, Frame.bracket, if_true,
    Schema.fromObject, gather_items h hw]
  cases inTurn steps ⟨schema.empty, []⟩ <;> rfl

/-- Items hold the first properties of a list, each a change to the structure. -/
inductive Positional : List (Property ρ) → List Spaced → List (ρ → ρ) → Prop
  | nil {fs} : Positional fs [] []
  | cons {f fs i items change changes} : ReadsText f.read i.part change →
    Positional fs items changes → Positional (f :: fs) (i :: items) (change :: changes)

/-- Blanks in front of the items of a record make no difference, whichever of them comes next. -/
theorem fromItems_blank (fs : List (Property ρ)) (first : Bool) (x : ρ) {w : Bytes} (hw : Blank w)
    (s : Bytes) : (schema.fromItems fs first x).run (w ++ s) = (schema.fromItems fs first x).run s := by
  cases fs with
  | nil => simp only [Schema.fromItems, Reader.map, closeList, skipBlank_append hw]
  | cons f fs => simp only [Schema.fromItems, next_blank hw]

/-- Properties that are not required may be left out at the end of a list. -/
theorem fromItems_close {fs : List (Property ρ)} (h : ∀ f ∈ fs, f.required = false) (first : Bool)
    (x : ρ) (rest : Bytes) :
    (schema.fromItems fs first x).run (Frame.list.close :: rest) = .ok (x, rest) := by
  cases fs with
  | nil => rfl
  | cons f fs =>
    have hnone : (f :: fs).findIdx? (·.required) = none := by
      rw [List.findIdx?_eq_none_iff]
      exact fun g hg => h g hg
    simp only [Schema.fromItems, next_close, hnone]

/-- Behind an item, the others are read by the properties that follow, up to the end of the list. -/
theorem fromItems_others {fs : List (Property ρ)} {items : List Spaced} {changes : List (ρ → ρ)}
    (h : Positional fs items changes) (hoptional : ∀ f ∈ fs, f.required = false) (x : ρ)
    (rest : Bytes) :
    (schema.fromItems fs false x).run (others (items.map Spaced.bytes) ++ Frame.list.close :: rest)
      = .ok (changes.foldl (fun x change => change x) x, rest) := by
  induction h generalizing x with
  | nil => exact fromItems_close hoptional false x rest
  | @cons f fs i items change changes hi _ ih =>
    obtain ⟨-, hoptional⟩ := List.forall_mem_cons.mp hoptional
    have hbehind := detached_blank i.blank_behind
      (detached_others (items.map Spaced.bytes) (detached_close .list rest))
    -- an item ends where blanks, a comma or the bracket follow it
    have hitem := hi.run [] _ blank_nil hbehind
    rw [List.nil_append] at hitem
    rw [List.map_cons, others_cons]
    simp only [Schema.fromItems, next_comma (opens_spaced hi.starts), next_spaced hi.starts, hitem]
    rw [fromItems_blank _ _ _ i.blank_behind]
    exact ih hoptional (change x)

/-- **Lists.**  A structure is what the items of a list make of the empty one, each as the property at
its place says; those behind the last item are left as they are. -/
theorem parse_items {items : List Spaced} {changes : List (ρ → ρ)}
    (h : Positional schema.properties items changes)
    (hoptional : ∀ f ∈ schema.properties, f.required = false) {s : Spaced} {w : Bytes}
    (hw : Blank w) (hs : s.part = container .list w (items.map Spaced.bytes)) :
    schema.parse s.bytes = .ok (changes.foldl (fun x change => change x) schema.empty) := by
  have hread : (schema.fromItems schema.properties true schema.empty).run
      (between w (items.map Spaced.bytes) ++ Frame.list.close :: s.behind)
        = .ok (changes.foldl (fun x change => change x) schema.empty, s.behind) := by
    -- only the first item has no comma in front; from there on the list goes on as behind any item
    generalize schema.properties = fs at h hoptional
    cases h with
    | nil => exact (fromItems_blank _ _ _ hw _).trans (fromItems_close hoptional true _ _)
    | @cons f fs i items change changes hi hitems =>
      have hothers : (schema.fromItems (f :: fs) false schema.empty).run _ = _ :=
        fromItems_others (.cons hi hitems) hoptional schema.empty s.behind
      rw [← hothers, List.map_cons, others_cons, between, List.append_assoc]
      simp only [Schema.fromItems, next_comma (opens_spaced hi.starts)]
  refine whole_blank s.blank_behind ?_
  have hbrace : ascii '[' ≠ ascii '{' := by decide
  rw [Spaced.bytes, hs]
  simp only [Schema.read, leading, skipBlank_container .list s.blank_before, Frame.bracket,
    if_neg hbrace, if_true, hread]
  rfl

end

end ThreatLedger.Json
