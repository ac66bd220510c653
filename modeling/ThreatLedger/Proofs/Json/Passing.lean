/-
  Every well-formed value is passed over, however deep it is nested.

  1. **Strings** — each byte and each escape between the quotes is one step over a string.
  2. **Numbers** — digits are passed, however many there are, and so are a fraction and an exponent
     behind them.
  3. **Values** — `Passes s` says that from the front of `s`, inside any open containers, passing comes
     to the place behind `s`; there it goes on as it does behind any value (`goOn`).
  4. **Containers** — `PassesIn f i` says the same of an item, blanks included.  Behind a comma the next
     item is found, and behind the bracket the container around this one goes on.  So by induction every
     value of the grammar is passed (`passes_value`).
  5. **Compact texts** — the compact text of a value of integers is one of the grammar (`passes_print`).
-/
import ThreatLedger.Proofs.Json.Grammar
import ThreatLedger.Proofs.Json.RawValues

namespace ThreatLedger.Json

/-! ## Strings -/

theorem hexUnit_fourDigits {ds : Bytes} {n : Nat} (h : FourDigits ds n) (s : Bytes) :
    hexUnit (ds ++ s) = .ok (n, s) := by
  obtain ⟨ha, hb, hc, hd⟩ := h
  simp only [List.cons_append, List.nil_append, hexUnit, ha, hb, hc, hd]

theorem shortEscape?_of_mem : ∀ p ∈ shortEscapes, shortEscape? p.1 = some (ascii p.2) := by decide

/-- An escape is passed in one step of a string, wherever it leads. -/
theorem passStringStep_escape {s r : Bytes} (h : passEscape s = .ok r) :
    (passStringStep ()).run (ascii '\\' :: s) = .ok (.inl (), r) := by
  have hquote : ascii '\\' ≠ ascii '"' := by decide
  simp only [passStringStep, if_neg hquote, if_true, h]

/-- What stands between quotes is passed with the closing quote, by induction on the plain bytes and the
escapes that it is made of. -/
theorem passString_inside {w : Bytes} (h : Inside w) (rest : Bytes) :
    passString.run (w ++ ascii '"' :: rest) = .ok ((), rest) := by
  show Reader.loopFrom passStringStep () _ = _
  induction h with
  | nil =>
    rw [Reader.loopFrom_eq]
    rfl
  | @plain b w hquote hslash hcontrol _ ih =>
    -- a plain byte is neither the quote nor an escape, so it is passed by itself
    have hstep : (passStringStep ()).run (b :: (w ++ ascii '"' :: rest))
        = .ok (.inl (), w ++ ascii '"' :: rest) := by
      simp only [passStringStep, if_neg hquote, if_neg hslash, if_neg (UInt8.not_lt.mpr hcontrol)]
    rw [Reader.loopFrom_eq, List.cons_append, hstep]
    exact ih
  | @short e w he _ ih =>
    obtain ⟨⟨e, c⟩, hmem, rfl⟩ := List.mem_map.mp he
    have hescape : passEscape (e :: (w ++ ascii '"' :: rest)) = .ok (w ++ ascii '"' :: rest) := by
      simp only [passEscape, shortEscape?_of_mem _ hmem]
    rw [Reader.loopFrom_eq, List.cons_append, List.cons_append, passStringStep_escape hescape]
    exact ih
  -- the units of a surrogate pair are passed one at a time, as if they were not one
  | @unit ds n w hds _ ih =>
    have hlong : shortEscape? (ascii 'u') = none := by decide
    have hescape : passEscape (ascii 'u' :: (ds ++ (w ++ ascii '"' :: rest)))
        = .ok (w ++ ascii '"' :: rest) := by
      simp only [passEscape, hlong, if_true, hexUnit_fourDigits hds]
    rw [Reader.loopFrom_eq, List.cons_append, List.cons_append, List.append_assoc,
      passStringStep_escape hescape]
    exact ih

/-! ## Numbers -/

/-- One digit or more are passed. -/
theorem spanDigits_digits {ds : Bytes} (hds : Digits ds) {s : Bytes} (hs : NoDigit s) :
    ∃ d r, ds ++ s = d :: r ∧ Ascii.isDigit d = true ∧ (spanDigits r).2 = s := by
  obtain ⟨hne, hdigits⟩ := hds
  obtain ⟨d, ds, rfl⟩ := List.exists_cons_of_ne_nil hne
  obtain ⟨hd, hdigits⟩ := List.forall_mem_cons.mp hdigits
  exact ⟨d, ds ++ s, rfl, hd, by rw [spanDigits_append hdigits hs]⟩

theorem passExponentDigits_digits {ds : Bytes} (hds : Digits ds) {s : Bytes} (hs : NoDigit s) :
    passExponentDigits (ds ++ s) = .ok s := by
  obtain ⟨d, r, hr, hd, hspan⟩ := spanDigits_digits hds hs
  simp only [hr, passExponentDigits, hd, if_true, hspan]

/-- Behind the letter of an exponent, its digits are passed. -/
theorem passExponent_digits {ds : Bytes} (hds : Digits ds) {s : Bytes} (hs : NoDigit s) :
    passExponent (ds ++ s) = .ok s := by
  have hpassed := passExponentDigits_digits hds hs
  obtain ⟨d, r, hr, hd, -⟩ := spanDigits_digits hds hs
  have hsign : (d = ascii '+' || d = ascii '-') = false := by
    rw [Bool.or_eq_false_iff, decide_eq_false_iff_not, decide_eq_false_iff_not]
    constructor <;> rintro rfl <;> cases hd
  rw [hr] at hpassed ⊢
  simp only [passExponent, hsign, Bool.false_eq_true, if_false, hpassed]

/-- A text behind the digits of a fraction: an exponent may be left of the number. -/
def passBehindFraction (s : Bytes) : Except Error Bytes :=
  match s with
  | [] => .ok []
  | b :: r => if isExponent b then passExponent r else .ok (b :: r)

/-- Behind the digits of a fraction the rest of the number is passed, an exponent or nothing. -/
theorem passFraction_digits {ds : Bytes} (hds : Digits ds) {s : Bytes} (hs : NoDigit s) :
    passFraction (ds ++ s) = passBehindFraction s := by
  obtain ⟨d, r, hr, hd, hspan⟩ := spanDigits_digits hds hs
  rw [hr, passFraction, if_pos hd, hspan]
  rfl

theorem isExponent_of_or {e : UInt8} (he : e = ascii 'e' ∨ e = ascii 'E') : isExponent e = true := by
  rcases he with rfl | rfl <;> rfl

/-- An exponent is passed up to its end, with its sign or without one. -/
theorem passBehindFraction_exponent {e : Bytes} (he : ExponentPart e) {rest : Bytes}
    (hrest : Detached rest) : passBehindFraction (e ++ rest) = .ok rest := by
  cases he with
  -- without an exponent the number ends here, and what follows it starts none
  | none =>
    have hfront := hrest.front (P := fun b => !isExponent b) (by decide)
    cases rest with
    | nil => rfl
    | cons b rest =>
      have hb : isExponent b = false := by simpa using hfront b rfl
      simp only [List.nil_append, passBehindFraction, hb, Bool.false_eq_true, if_false]
  | plain he hds =>
    simp only [List.cons_append, passBehindFraction, isExponent_of_or he, if_true,
      passExponent_digits hds hrest.noDigit]
  | @signed e sign ds he hsign hds =>
    have hsign : (sign = ascii '+' || sign = ascii '-') = true := by
      rcases hsign with rfl | rfl <;> rfl
    simp only [List.cons_append, passBehindFraction, isExponent_of_or he, if_true, passExponent,
      hsign, passExponentDigits_digits hds hrest.noDigit]

/-- What follows the digits of a number, an exponent or its end, starts with neither a point nor a
digit. -/
theorem exponent_front {e : Bytes} (he : ExponentPart e) {rest : Bytes} (hrest : Detached rest) :
    ∀ b ∈ (e ++ rest).head?, b ≠ ascii '.' ∧ Ascii.isDigit b = false := by
  intro b hb
  cases he with
  | none =>
    have hfront := hrest.front (P := fun b => b != ascii '.' && !Ascii.isDigit b) (by decide)
    simpa using hfront b hb
  | plain he | signed he =>
    cases hb
    rcases he with rfl | rfl <;> decide

/-- Behind the digits before the point, a fraction and an exponent are passed. -/
theorem passBehindDigits_parts {f e : Bytes} (hf : FractionPart f) (he : ExponentPart e)
    {rest : Bytes} (hrest : Detached rest) :
    NoDigit (f ++ (e ++ rest)) ∧ passBehindDigits (f ++ (e ++ rest)) = .ok rest := by
  have hpassed := passBehindFraction_exponent he hrest
  have hfront := exponent_front he hrest
  cases hf with
  -- the end of the number is told from a point by its first byte, if there is one
  | none =>
    refine ⟨fun b hb => (hfront b hb).2, ?_⟩
    rw [← hpassed, List.nil_append]
    generalize e ++ rest = s at hfront
    cases s with
    | nil => rfl
    | cons b s =>
      rw [passBehindDigits, if_neg (hfront b rfl).1]
      rfl
  | @digits ds hds =>
    refine ⟨fun b hb => ?_, ?_⟩
    · cases hb
      rfl
    · have hpoint : passBehindDigits (ascii '.' :: ds ++ (e ++ rest))
          = passFraction (ds ++ (e ++ rest)) := rfl
      rw [hpoint, passFraction_digits hds fun b hb => (hfront b hb).2]
      exact hpassed

/-- **Numbers.**  Every number of the grammar is passed, up to what may follow a value. -/
theorem passUnsigned_text {s : Bytes} (h : UnsignedText s) {rest : Bytes} (hrest : Detached rest) :
    passUnsigned (s ++ rest) = .ok rest := by
  obtain ⟨hn, hf, he⟩ := h
  obtain ⟨hdigit, hpassed⟩ := passBehindDigits_parts hf he hrest
  rw [List.append_assoc, List.append_assoc]
  generalize _ ++ (_ ++ rest) = s at hdigit hpassed
  cases hn with
  | zero =>
    rw [List.singleton_append, passUnsigned, if_pos rfl, hdigit.getD_eq_false]
    exact hpassed
  | digits hzero hds =>
    obtain ⟨d, r, hr, hd, hspan⟩ := spanDigits_digits hds hdigit
    rw [List.cons_append] at hr ⊢
    obtain ⟨rfl, rfl⟩ := List.cons.inj hr
    rw [passUnsigned, if_neg hzero, if_pos hd, hspan]
    exact hpassed

/-! ## Values -/

/-- Goes on inside the open containers, or ends behind the outermost one. -/
def goOn : Except Error (Passing × Bytes) → Except Error (Unit × Bytes)
  | .error e => .error e
  | .ok (.inl frames, s) => Reader.loopFrom passStep frames s
  | .ok (.inr (), s) => .ok ((), s)

/-- One turn of passing: a scalar or an opening bracket, and then the containers around it. -/
theorem loopFrom_passStep (frames : List Frame) (s : Bytes) :
    Reader.loopFrom passStep frames s = goOn ((passStep frames).run s) := by
  rw [Reader.loopFrom_eq]
  rcases (passStep frames).run s with e | ⟨frames | ⟨⟩, r⟩ <;> rfl

/-- Blanks in front of a value are passed with it. -/
theorem loopFrom_passStep_blank {w : Bytes} (hw : Blank w) (frames : List Frame) (s : Bytes) :
    Reader.loopFrom passStep frames (w ++ s) = Reader.loopFrom passStep frames s := by
  rw [loopFrom_passStep, loopFrom_passStep]
  simp only [passStep, skipBlank_append hw]

/-- **Passing.**  Inside any open containers, a text is passed as a value is. -/
structure Passes (s : Bytes) : Prop where
  starts : Starts .list s
  run : ∀ frames rest, Detached rest →
    Reader.loopFrom passStep frames (s ++ rest) = goOn (resume frames rest)

/-- A value that passes inside any containers passes by itself, with blanks around it. -/
theorem Passes.passValue_run {s : Bytes} (h : Passes s) {w : Bytes} (hw : Blank w) {rest : Bytes}
    (hrest : Detached rest) : passValue.run (w ++ (s ++ rest)) = .ok ((), rest) :=
  (loopFrom_passStep_blank hw [] _).trans (h.run [] rest hrest)

/-- What starts with neither a blank nor a bracket, and is passed as a scalar. -/
theorem passes_scalar {b : UInt8} {s : Bytes} (hblank : isBlank b = false) (hlist : b ≠ ascii '[')
    (hobject : b ≠ ascii '{') (hclose : b ≠ ascii ']')
    (h : ∀ rest, Detached rest → passScalar b (s ++ rest) = .ok rest) : Passes (b :: s) where
  starts := ⟨b, s, rfl, hblank, hclose⟩
  run frames rest hrest := by
    rw [loopFrom_passStep]
    simp only [passStep, List.cons_append, skipBlank_cons hblank, if_neg hlist, if_neg hobject,
      h rest hrest]

theorem passes_null : Passes nullLiteral :=
  passes_scalar (by decide) (by decide) (by decide) (by decide) fun _ _ => rfl

theorem passes_true : Passes trueLiteral :=
  passes_scalar (by decide) (by decide) (by decide) (by decide) fun _ _ => rfl

theorem passes_false : Passes falseLiteral :=
  passes_scalar (by decide) (by decide) (by decide) (by decide) fun _ _ => rfl

/-- Every string of the grammar passes.  Its escapes are not decoded, so that a surrogate may stand
alone. -/
theorem passes_string {s : Bytes} (h : Quoted s) : Passes s := by
  obtain ⟨w, hw, rfl⟩ := h
  have hpass : ∀ {s r}, passString.run s = .ok ((), r) → passScalar (ascii '"') s = .ok r := by
    intro s r h
    have hdigit : Ascii.isDigit (ascii '"') = false := rfl
    unfold passScalar
    rw [if_neg (by decide), if_neg (by decide), if_neg (by decide), if_neg (by decide), hdigit,
      if_neg Bool.false_ne_true, if_pos rfl, h]
  refine passes_scalar (by decide) (by decide) (by decide) (by decide) fun rest _ => ?_
  rw [List.append_assoc, List.singleton_append]
  exact hpass (passString_inside hw rest)

theorem unsigned_front {s : Bytes} (h : UnsignedText s) :
    ∃ d r, s = d :: r ∧ Ascii.isDigit d = true := by
  obtain ⟨hn, -, -⟩ := h
  cases hn with
  | zero => exact ⟨_, _, rfl, rfl⟩
  | digits _ hds => exact ⟨_, _, rfl, hds.2 _ List.mem_cons_self⟩

/-- Every number of the grammar passes, whatever its size: its value is not looked at. -/
theorem passes_number {s : Bytes} (h : NumberText s) : Passes s := by
  cases h with
  | positive h =>
    obtain ⟨d, r, rfl, hd⟩ := unsigned_front h
    have hstarts : startsNumber d := by rw [startsNumber, hd, Bool.or_true]
    have hne : ∀ c, startsNumber c = false → d ≠ c := fun c => ne_of_startsNumber hstarts
    refine passes_scalar (isBlank_of_startsNumber hstarts) (hne _ rfl) (hne _ rfl) (hne _ rfl)
      fun rest hrest => ?_
    -- the first byte is a digit, which starts no literal and is no sign
    have hsign : d ≠ ascii '-' := by
      rintro rfl
      cases hd
    rw [passScalar, if_neg (hne _ rfl), if_neg (hne _ rfl), if_neg (hne _ rfl), if_neg hsign,
      if_pos hd]
    exact passUnsigned_text h hrest
  | negative h =>
    exact passes_scalar (by decide) (by decide) (by decide) (by decide) fun rest hrest =>
      passUnsigned_text h hrest

/-! ## Containers -/

section

variable {f : Frame} {outer : List Frame}

/-- Blanks behind a value are skipped before the container around it goes on. -/
theorem resume_blank {w : Bytes} (hw : Blank w) (s : Bytes) :
    resume (f :: outer) (w ++ s) = resume (f :: outer) s := by
  simp only [resume, skipBlank_append hw]

theorem resume_close (rest : Bytes) : resume (f :: outer) (f.close :: rest) = resume outer rest := by
  cases f <;> rfl

theorem resume_comma (s : Bytes) : resume (f :: outer) (ascii ',' :: s) = nextPlace f outer s := by
  cases f <;> rfl

theorem enter_blank {w : Bytes} (hw : Blank w) (s : Bytes) :
    enter f outer (w ++ s) = enter f outer s := by
  simp only [enter, skipBlank_append hw]

theorem enter_close (rest : Bytes) : enter f outer (f.close :: rest) = resume outer rest := by
  cases f <;> rfl

/-- A container whose first byte is not its closing bracket has a first item. -/
theorem enter_starts {s : Bytes} (h : Starts f s) : enter f outer s = nextPlace f outer s := by
  obtain ⟨b, t, rfl, hblank, hclose⟩ := h
  simp only [enter, skipBlank_cons hblank, if_neg hclose]

/-- Blanks in front of an item are skipped, whether that is found in a list or behind a name. -/
theorem goOn_nextPlace_blank {w : Bytes} (hw : Blank w) (s : Bytes) :
    goOn (nextPlace f outer (w ++ s)) = goOn (nextPlace f outer s) := by
  cases f with
  | list => exact loopFrom_passStep_blank hw _ s
  | object => simp only [nextPlace, Frame.place, skipBlank_append hw]

/-- An opening bracket enters its container, inside the ones that are open. -/
theorem loopFrom_bracket (s : Bytes) :
    Reader.loopFrom passStep outer (f.bracket :: s) = goOn (enter f outer s) := by
  cases f <;> exact loopFrom_passStep ..

/-- Behind blanks, an item starts with a byte that does not close its container. -/
def Opens (f : Frame) (i : Bytes) : Prop := ∃ w s, Blank w ∧ Starts f s ∧ i = w ++ s

theorem opens_spaced {i : Spaced} (h : Starts f i.part) : Opens f i.bytes :=
  ⟨i.before, i.part ++ i.behind, i.blank_before, h.append _, rfl⟩

/-- **Items.**  An item is passed as an item is. -/
structure PassesIn (f : Frame) (i : Bytes) : Prop where
  opens : Opens f i
  run : ∀ outer rest, Detached rest →
    goOn (nextPlace f outer (i ++ rest)) = goOn (resume (f :: outer) rest)

/-- Behind an item stands the comma of the next one, or what stands behind all of them. -/
theorem detached_others (items : List Bytes) {s : Bytes} (hs : Detached s) :
    Detached (others items ++ s) := by
  cases items with
  | nil => exact hs
  | cons i items => exact detached_comma _

theorem others_cons (i : Bytes) (items : List Bytes) (s : Bytes) :
    others (i :: items) ++ s = ascii ',' :: (i ++ (others items ++ s)) := by
  simp only [others, List.flatMap_cons, List.cons_append, List.append_assoc]

/-- Behind an item, the others are passed, up to the end of the container. -/
theorem goOn_others {items : List Bytes} (h : ∀ i ∈ items, PassesIn f i) (rest : Bytes) :
    goOn (resume (f :: outer) (others items ++ f.close :: rest)) = goOn (resume outer rest) := by
  induction items with
  | nil => exact congrArg goOn (resume_close rest)
  | cons i items ih =>
    obtain ⟨hi, hitems⟩ := List.forall_mem_cons.mp h
    rw [others_cons, resume_comma, hi.run _ _ (detached_others items (detached_close f rest))]
    exact ih hitems

/-- **Containers.**  A list or an object is passed if its items are, wherever it stands: the brackets
enter it and leave it again, and the commas lead from item to item. -/
theorem passes_container {w : Bytes} (hw : Blank w) {items : List Bytes}
    (h : ∀ i ∈ items, PassesIn f i) : Passes (container f w items) where
  starts := ⟨f.bracket, _, rfl, by cases f <;> rfl, by cases f <;> decide⟩
  run frames rest _ := by
    rw [container, List.cons_append, loopFrom_bracket, List.append_assoc, List.singleton_append]
    cases items with
    | nil => rw [between, enter_blank hw, enter_close]
    | cons i items =>
      obtain ⟨hi, hitems⟩ := List.forall_mem_cons.mp h
      have hbehind := detached_others items (detached_close f rest)
      obtain ⟨u, s, hu, hs, rfl⟩ := hi.opens
      rw [← goOn_others hitems rest, ← hi.run _ _ hbehind, between, List.append_assoc,
        List.append_assoc, enter_blank hu, enter_starts (hs.append _), goOn_nextPlace_blank hu]

end

/-- A value with blanks around it is an item of a list, which starts right where the value does. -/
theorem Passes.item {i : Spaced} (h : Passes i.part) : PassesIn .list i.bytes where
  opens := opens_spaced h.starts
  run outer rest hrest := by
    rw [Spaced.bytes, List.append_assoc, List.append_assoc, goOn_nextPlace_blank i.blank_before]
    exact (h.run _ _ (detached_blank i.blank_behind hrest)).trans
      (congrArg goOn (resume_blank i.blank_behind rest))

theorem colon_blank {w : Bytes} (hw : Blank w) (s : Bytes) :
    colon.run (w ++ ascii ':' :: s) = .ok ((), s) := by
  have hcolon : skipBlank (ascii ':' :: s) = ascii ':' :: s := skipBlank_cons rfl s
  simp only [colon, skipBlank_append hw, hcolon, if_true]

/-- A member from the quote of its name on, which is where an object finds it. -/
theorem Member.bytes_quoted {m : Member} {w : Bytes} (h : m.name.part = quoted w) :
    m.bytes = m.name.before ++ ascii '"' :: (w ++ ascii '"' :: (m.name.behind
      ++ ascii ':' :: m.value.bytes)) := by
  simp only [Member.bytes, Spaced.bytes, h, quoted, List.cons_append, List.append_assoc,
    List.nil_append]

/-- A name and a value with blanks around them are an item of an object. -/
theorem Passes.member {m : Member} (hname : Quoted m.name.part) (h : Passes m.value.part) :
    PassesIn .object m.bytes := by
  obtain ⟨w, hw, hpart⟩ := hname
  rw [Member.bytes_quoted hpart]
  refine ⟨⟨_, _, m.name.blank_before, ⟨_, _, rfl, rfl, by decide⟩, rfl⟩, fun outer rest hrest => ?_⟩
  -- behind the quote come the rest of the name, blanks and the colon, and then the value
  have hmember : (passString.bind fun _ => colon).run (w ++ ascii '"' :: (m.name.behind
      ++ ascii ':' :: (m.value.bytes ++ rest))) = .ok ((), m.value.bytes ++ rest) := by
    rw [bind_run (passString_inside hw _), colon_blank m.name.blank_behind]
  have hplace : nextPlace .object outer (ascii '"' :: (w ++ ascii '"' :: (m.name.behind
      ++ ascii ':' :: (m.value.bytes ++ rest))))
        = .ok (.inl (.object :: outer), m.value.bytes ++ rest) := by
    have hblank : isBlank (ascii '"') = false := by decide
    simp only [nextPlace, Frame.place, skipBlank_cons hblank, if_true, hmember]
  simp only [List.append_assoc, List.cons_append]
  rw [goOn_nextPlace_blank m.name.blank_before, hplace, Spaced.bytes, List.append_assoc,
    List.append_assoc]
  exact (loopFrom_passStep_blank m.value.blank_before _ _).trans
    ((h.run _ _ (detached_blank m.value.blank_behind hrest)).trans
      (congrArg goOn (resume_blank m.value.blank_behind rest)))

/-- **Values.**  Every well-formed value is passed, by induction on its form; the depth is not bounded,
as containers that are open are only listed. -/
theorem passes_value {s : Bytes} (h : ValueText s) : Passes s := by
  induction h with
  | null => exact passes_null
  | true => exact passes_true
  | false => exact passes_false
  | number h => exact passes_number h
  | string h => exact passes_string h
  | list hw _ ih => exact passes_container hw (List.forall_mem_map.mpr fun i hi => (ih i hi).item)
  | object hw hnames _ ih =>
    exact passes_container hw
      (List.forall_mem_map.mpr fun m hm => (ih m hm).member (hnames m hm))

/-! ## Compact texts -/

/-- However a byte is written inside a string, it may stand between quotes: by itself, by a short
escape, or by the unit of a control character. -/
theorem inside_escapeByte (b : UInt8) {w : Bytes} (hw : Inside w) : Inside (escapeByte b ++ w) := by
  have hwritten := written_escapeByte b
  generalize escapeByte b = bytes at hwritten
  cases hwritten with
  | plain hquote hslash hcontrol => exact .plain hquote hslash (UInt8.not_lt.mp hcontrol) hw
  | @short c h =>
    have hshort : ∀ c b, shortEscape? c = some b → c ∈ shortEscapes.map (·.1) := by
      intro c b h
      unfold shortEscape? at h
      split_ifs at h <;> subst c <;> decide
    exact .short (hshort c b h) hw
  | digits h =>
    have hb : b.toNat < 32 := h
    have hzero : Ascii.hexValue? (ascii '0') = some 0 := rfl
    exact .unit (.mk hzero hzero (hexValue?_hexByte _ (by omega)) (hexValue?_hexByte _ (by omega))) hw

/-- What the printer writes for a text is a string of the grammar. -/
theorem quoted_quotedString (t : String) : Quoted (quotedString t) := by
  refine ⟨(Bytes.ofText t).flatMap escapeByte, ?_, rfl⟩
  induction Bytes.ofText t with
  | nil => exact .nil
  | cons b bytes ih => exact inside_escapeByte b ih

/-- A numeral is a number of the grammar: it has no leading zero. -/
theorem unsignedText_decimal (n : Nat) : UnsignedText (decimal n) := by
  have hdigits : ∀ {s}, WholePart s → UnsignedText s := by
    intro s h
    have htext := UnsignedText.mk h .none .none
    rwa [List.nil_append, List.append_nil] at htext
  rcases Nat.eq_zero_or_pos n with rfl | hpos
  · exact hdigits .zero
  · obtain ⟨d, ds, hds, hd⟩ := decimal_front hpos
    rw [hds]
    exact hdigits (.digits hd ⟨List.cons_ne_nil d ds, hds ▸ isDigit_of_mem_decimal⟩)

/-- What the printer writes for an integer is a number of the grammar. -/
theorem numberText_integer (n : Int) : NumberText (Bytes.ofText (Number.integer n).text) := by
  rw [ofText_integer]
  split
  · exact .positive (unsignedText_decimal _)
  · exact .negative (unsignedText_decimal _)

theorem bytes_tight (s : Bytes) : (Spaced.tight s).bytes = s := List.append_nil s

theorem compact_lineBreak (depth : Nat) : compact.lineBreak depth = [] := rfl

/-- The items that the printer writes are separated as the grammar has it, with no blanks around
them. -/
theorem printItems_eq (vs : List Value) (depth : Nat) (s : Bytes) :
    printItems compact depth vs ++ s = others (vs.map fun v => v.print compact depth) ++ s := by
  induction vs with
  | nil => rfl
  | cons v vs ih => rw [printItems_cons, ih, List.map_cons, others_cons]

/-- The members that the printer writes are separated as the grammar has it, each with its name in
quotes. -/
theorem printMembers_eq (ms : List (String × Value)) (depth : Nat) (s : Bytes) :
    printMembers compact depth ms ++ s
      = others (ms.map fun m => quotedString m.1 ++ ascii ':' :: m.2.print compact depth) ++ s := by
  induction ms with
  | nil => rfl
  | cons m ms ih =>
    rw [printMembers_cons, ih, List.map_cons, others_cons, List.append_assoc, List.cons_append]

/-- The compact text of a list has no blanks around its items. -/
theorem print_array (vs : List Value) (depth : Nat) :
    (Value.array vs).print compact depth = container .list []
      ((vs.map fun v => Spaced.tight (v.print compact (depth + 1))).map Spaced.bytes) := by
  cases vs with
  | nil => rfl
  | cons v vs =>
    simp only [Value.print, compact_lineBreak, List.nil_append, List.append_nil, List.append_assoc,
      printItems_eq, container, between, List.map_cons, List.map_map, Function.comp_def, bytes_tight]
    rfl

/-- The compact text of an object has no blanks around its names and values. -/
theorem print_object (ms : List (String × Value)) (depth : Nat) :
    (Value.object ms).print compact depth = container .object []
      ((ms.map fun m => Member.mk (.tight (quotedString m.1))
        (.tight (m.2.print compact (depth + 1)))).map Member.bytes) := by
  cases ms with
  | nil => rfl
  | cons m ms =>
    have hcolon : compact.colon = [ascii ':'] := rfl
    simp only [Value.print, compact_lineBreak, hcolon, List.nil_append, List.append_nil,
      List.cons_append, List.append_assoc, printMembers_eq, container, between, List.map_cons,
      List.map_map, Function.comp_def, Member.bytes, bytes_tight]
    rfl

/-- The compact text of a value of integers is well-formed, by induction on the value.  Other numbers
are in no such value, so there is no case for them. -/
theorem valueText_print {v : Value} (h : v.Whole) (depth : Nat) :
    ValueText (v.print compact depth) := by
  induction h generalizing depth with
  | null => exact .null
  | @bool b =>
    cases b
    · exact .false
    · exact .true
  | integer => exact .number (numberText_integer _)
  | string => exact .string (quoted_quotedString _)
  -- containers are printed without blanks, which is one of the ways to space their items
  | array _ ih =>
    rw [print_array]
    exact .list blank_nil (List.forall_mem_map.mpr fun v hv => ih v hv _)
  | object _ ih =>
    rw [print_object]
    exact .object blank_nil (List.forall_mem_map.mpr fun m _ => quoted_quotedString m.1)
      (List.forall_mem_map.mpr fun m hm => ih m hm _)

/-- **Compact texts.**  The compact text of a value of integers is passed. -/
theorem passes_print {v : Value} (h : v.Whole) (depth : Nat) : Passes (v.print compact depth) :=
  passes_value (valueText_print h depth)

end ThreatLedger.Json
