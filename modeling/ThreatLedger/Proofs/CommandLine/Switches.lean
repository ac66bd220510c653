/-
  Values that a command line gives to switches.

  1. **Forms** — a value stands behind the name of its switch and an equals sign, or in the next argument
     if it does not look like a switch.  `Gives` relates arguments to what they give.
  2. **One switch** — a switch behind an equals sign is judged at once, one before its value only when the
     next argument comes.  So what is carried is not what has been read but what will have been read when
     all that is pending has been judged (`Progress.Holds`).
  3. **A level** — one step for each way in which a switch can come: for the first time or as one that may
     come again (`readFrom_new`), or as one that may not (`readFrom_repeated`).  By induction on the
     arguments, a level reads what they give, in order, if it takes all of it (`readFrom_gives`), and
     refuses what holds a repetition (`readFrom_not_once`).
-/
import Mathlib.Data.List.TakeWhile
import ThreatLedger.CommandLine.Invocation
import ThreatLedger.Proofs.Results

namespace ThreatLedger.CommandLine

/-! ## Forms -/

/-- A long switch as an argument. -/
def dashed (name : String) : String := "--" ++ name

/-- A switch with its value in one argument. -/
def assigned (e : String × String) : String := dashed e.1 ++ "=" ++ e.2

/-- The arguments that give a value to a switch. -/
inductive Form (e : String × String) : List String → Prop
  | attached : Form e [assigned e]
  | apart : e.2.toList.head? ≠ some '-' → Form e [dashed e.1, e.2]

/-- Arguments, and the switches with their values that they give. -/
inductive Gives : List String → List (String × String) → Prop
  | nil : Gives [] []
  | cons {e form args entries} : Form e form → Gives args entries →
    Gives (form ++ args) (e :: entries)

theorem gives_assigned (entries : List (String × String)) : Gives (entries.map assigned) entries := by
  induction entries with
  | nil => exact .nil
  | cons e entries ih => exact .cons .attached ih

/-- Arguments that give options one after the other give them all. -/
theorem Gives.append {args args' : List String} {entries entries' : List (String × String)}
    (h : Gives args entries) (h' : Gives args' entries') :
    Gives (args ++ args') (entries ++ entries') := by
  induction h with
  | nil => exact h'
  | cons hform _ ih =>
    rw [List.append_assoc]
    exact .cons hform ih

/-- The characters of an option that stands for itself, with its value in the next argument. -/
theorem toList_dashed (name : String) : (dashed name).toList = '-' :: '-' :: name.toList :=
  String.toList_append

/-- The characters of an option with its value behind an equals sign. -/
theorem toList_assigned (e : String × String) :
    (assigned e).toList = '-' :: '-' :: (e.1.toList ++ '=' :: e.2.toList) := by
  rw [assigned, String.toList_append, String.toList_append, toList_dashed]
  simp

/-! ## One switch -/

namespace Level

theorem name_of_switchOfName? {level : Level} {name : String} {s : Switch}
    (h : level.switchOfName? name = some s) : s.name = name := by
  simpa using List.find?_some h

/-- The name of a switch ends before an equals sign, and is not empty. -/
theorem names_plain (level : Level) :
    ∀ s ∈ level.switches, s.name.toList.all (· ≠ '=') = true ∧ s.name.toList ≠ [] := by
  cases level <;> decide

/-- No name of a switch is empty or has an equals sign, so that the first one in an argument ends the
name. -/
theorem plain_of_switchOfName? {level : Level} {name : String} {s : Switch}
    (h : level.switchOfName? name = some s) :
    (∀ c ∈ name.toList, decide (c ≠ '=') = true) ∧ name.toList ≠ [] := by
  rw [← name_of_switchOfName? h]
  exact (level.names_plain s (List.mem_of_find?_eq_some h)).imp_left List.all_eq_true.mp

/-- A switch of a level takes this value. -/
def Takes (level : Level) (e : String × String) : Prop :=
  ∃ s, level.switchOfName? e.1 = some s ∧ s.takesValue ∧ s.accepts e.2

/-- Whether the switch with a name may occur again. -/
def repeats (level : Level) (name : String) : Bool :=
  (level.switchOfName? name).any (!·.isUnique)

end Level

namespace Progress

/-- These switches with their values have been read, and nothing is pending. -/
def settled (found : List (String × String)) : Progress := ⟨found, [], none, false⟩

/-- These switches with their values have been read, and a further one is pending. -/
def held (found : List (String × String)) (s : Switch) (value : Option String) : Progress :=
  ⟨found, [], some (.switch s value), false⟩

/-- What has been read is these switches with their values, once what is pending has been judged. -/
structure Holds (p : Progress) (found : List (String × String)) : Prop where
  judged : p.resolve = .ok (settled found)
  escaped : p.escaped = false

theorem holds_settled (found : List (String × String)) : (settled found).Holds found := ⟨rfl, rfl⟩

/-- A value that was held back is recorded for its switch as if it had come with it. -/
theorem resolve_held (found : List (String × String)) (s : Switch) (value : String) :
    (held found s (some value)).resolve = (settled found).record s value := rfl

theorem has_settled (found : List (String × String)) (name : String) :
    (settled found).has name ↔ ∃ e ∈ found, e.1 = name := by
  simp [has, settled, List.any_eq_true]

end Progress

section

variable {level : Level} {p : Progress} {found : List (String × String)} {e : String × String}

/-- A switch may be given once only exactly if its level does not repeat its name. -/
theorem isUnique_iff {s : Switch} {name : String} (hs : level.switchOfName? name = some s) :
    s.isUnique ↔ ¬level.repeats name := by
  simp [Level.repeats, hs]

/-- A value is added, if its switch takes it and has not occurred or may occur again. -/
theorem record_new {s : Switch} (hs : level.switchOfName? e.1 = some s) (haccepts : s.accepts e.2)
    (hnew : (∃ e' ∈ found, e'.1 = e.1) → level.repeats e.1) :
    (Progress.settled found).record s e.2 = .ok (.settled (found ++ [e])) := by
  have hname := Level.name_of_switchOfName? hs
  have hunique : ¬(s.isUnique ∧ (Progress.settled found).has s.name) := by
    rintro ⟨hunique, hhas⟩
    exact (isUnique_iff hs).mp hunique (hnew ((Progress.has_settled _ _).mp (hname ▸ hhas)))
  unfold Progress.record
  rw [if_neg hunique, if_neg (by simp [haccepts]), hname]
  rfl

/-- A switch that has occurred and may not occur again is refused. -/
theorem record_repeated {s : Switch} (hs : level.switchOfName? e.1 = some s)
    (hold : ∃ e' ∈ found, e'.1 = e.1) (hunique : ¬level.repeats e.1) :
    (Progress.settled found).record s e.2 = .error .usage := by
  have hhas : (Progress.settled found).has s.name :=
    (Progress.has_settled _ _).mpr (Level.name_of_switchOfName? hs ▸ hold)
  unfold Progress.record
  rw [if_pos ⟨(isUnique_iff hs).mpr hunique, hhas⟩]

/-- A switch that takes a value settles what was held back, and then records its own. -/
theorem react_eq {s : Switch} (htakes : s.takesValue) (value : String) :
    p.react s value = p.resolve >>= fun q => q.record s value := by
  unfold Progress.react
  cases heffect : s.effect with
  | single | many => rfl
  | help | version | mark | count => simp [Switch.takesValue, heffect] at htakes

/-! ### Arguments -/

/-- An argument that begins with two dashes, and has more behind them, is a long option. -/
theorem readArgument_long {arg : String} {cs : List Char} (harg : arg.toList = '-' :: '-' :: cs)
    (hne : cs ≠ []) (hopen : p.escaped = false) : readArgument level p arg = readLong level p cs := by
  obtain ⟨c, cs, rfl⟩ := List.exists_cons_of_ne_nil hne
  unfold readArgument
  rw [hopen, harg]
  rfl

/-- An argument that does not begin with a dash is a value, or an operand. -/
theorem readArgument_value {arg : String} (harg : arg.toList.head? ≠ some '-')
    (hopen : p.escaped = false) : readArgument level p arg = readValue level p arg := by
  unfold readArgument
  rw [hopen]
  cases hcs : arg.toList with
  | nil => rfl
  | cons c cs =>
    rw [hcs] at harg
    have hc : c ≠ '-' := fun he => harg (congrArg some he)
    simp [hc]

/-- A value behind an equals sign completes its switch at once; what was pending before is judged
first. -/
theorem readArgument_assigned {s : Switch} (hs : level.switchOfName? e.1 = some s)
    (htakes : s.takesValue) (hopen : p.escaped = false) :
    readArgument level p (assigned e) = p.react s e.2 := by
  obtain ⟨hplain, hne⟩ := Level.plain_of_switchOfName? hs
  have htake : (e.1.toList ++ '=' :: e.2.toList).takeWhile (· ≠ '=') = e.1.toList := by
    rw [List.takeWhile_append_of_pos hplain]
    exact List.append_nil _
  have hdrop : (e.1.toList ++ '=' :: e.2.toList).dropWhile (· ≠ '=') = '=' :: e.2.toList :=
    List.dropWhile_append_of_pos hplain
  rw [readArgument_long (toList_assigned e) (List.append_ne_nil_of_left_ne_nil hne _) hopen]
  unfold readLong
  simp only [htake, hdrop, String.ofList_toList, hs, htakes]

/-- A name without a value leaves its switch waiting for one; what was pending before is judged
first. -/
theorem readArgument_dashed {s : Switch} (hs : level.switchOfName? e.1 = some s)
    (htakes : s.takesValue) (hopen : p.escaped = false) :
    readArgument level p (dashed e.1) = p.await s := by
  obtain ⟨hplain, hne⟩ := Level.plain_of_switchOfName? hs
  rw [readArgument_long (toList_dashed e.1) hne hopen]
  unfold readLong
  simp only [List.takeWhile_eq_self_iff.mpr hplain, List.dropWhile_eq_nil_iff.mpr hplain,
    String.ofList_toList, hs, htakes]

/-- An option that stands for itself is held back until its value comes with the next argument. -/
theorem readArgument_awaits {s : Switch} (hs : level.switchOfName? e.1 = some s)
    (htakes : s.takesValue) (hp : p.Holds found) :
    readArgument level p (dashed e.1) = .ok (.held found s none) := by
  rw [readArgument_dashed hs htakes hp.escaped]
  exact bind_eq_ok.mpr ⟨_, hp.judged, rfl⟩

/-- The value that a switch waits for is held back with it, and is judged only when the next argument
comes. -/
theorem readArgument_awaited {s : Switch} {value : String} (hvalue : value.toList.head? ≠ some '-') :
    readArgument level (.held found s none) value = .ok (.held found s (some value)) := by
  rw [readArgument_value hvalue rfl]
  rfl

end

/-! ## A level -/

/-- A switch occurs again only if it may. -/
def Level.Once (level : Level) (entries : List (String × String)) : Prop :=
  entries.Pairwise fun e e' => e.1 = e'.1 → level.repeats e'.1

/-- An option more is given at most as often as its level allows, if it is new or may be repeated. -/
theorem Level.Once.concat {level : Level} {found : List (String × String)} {e : String × String}
    (h : level.Once found) (hnew : (∃ e' ∈ found, e'.1 = e.1) → level.repeats e.1) :
    level.Once (found ++ [e]) := by
  refine List.pairwise_append.mpr ⟨h, List.pairwise_singleton _ _, fun e' he' e'' he'' => ?_⟩
  rw [List.mem_singleton.mp he'']
  exact fun hsame => hnew ⟨e', he', hsame⟩

/-- A level takes all of these values: each has a switch, which occurs again only if it may, and
switches that exclude each other do not occur together. -/
structure Level.TakesAll (level : Level) (entries : List (String × String)) : Prop where
  known : ∀ e ∈ entries, level.Takes e
  once : level.Once entries
  compatible : ∀ c ∈ level.conflicts, (∀ e ∈ entries, e.1 ≠ c.1) ∨ ∀ e ∈ entries, e.1 ≠ c.2

/-- The first of the values that are still to come is taken. -/
theorem Level.TakesAll.next {level : Level} {found entries : List (String × String)}
    {e : String × String} (h : level.TakesAll (found ++ e :: entries)) :
    level.Takes e ∧ ((∃ e' ∈ found, e'.1 = e.1) → level.repeats e.1) := by
  obtain ⟨-, -, hbetween⟩ := List.pairwise_append.mp h.once
  refine ⟨h.known e (by simp), ?_⟩
  rintro ⟨e', he', hsame⟩
  exact hbetween e' he' e List.mem_cons_self hsame

section

variable {level : Level} {p q : Progress} {found : List (String × String)} {e : String × String}

/-- A level without branches reads its arguments one after the other. -/
theorem readFrom_argument (hleaf : level.branches = false) (arg : String) (args : List String) :
    readFrom level p (arg :: args) = readArgument level p arg >>= fun q => readFrom level q args := by
  have hstay : mayDescend level p = false := by
    simp [mayDescend, hleaf]
  simp only [readFrom, hstay, Bool.false_eq_true, if_false, false_and]

theorem readFrom_read (hleaf : level.branches = false) {arg : String} (args : List String)
    (h : readArgument level p arg = .ok q) :
    readFrom level p (arg :: args) = readFrom level q args := by
  rw [readFrom_argument hleaf, h]
  rfl

/-! ### Steps -/

/-- **One option**, in either form, of a switch that has not occurred or may occur again: reading goes
on with one more entry. -/
theorem readFrom_new (hleaf : level.branches = false) (hp : p.Holds found) (htakes : level.Takes e)
    (hnew : (∃ e' ∈ found, e'.1 = e.1) → level.repeats e.1) {form : List String} (hform : Form e form) :
    ∃ q, q.Holds (found ++ [e]) ∧
      ∀ args, readFrom level p (form ++ args) = readFrom level q args := by
  obtain ⟨s, hs, htakes, haccepts⟩ := htakes
  have hrecord := record_new hs haccepts hnew
  cases hform with
  | attached =>
    refine ⟨_, Progress.holds_settled _, fun args => readFrom_read hleaf args ?_⟩
    rw [readArgument_assigned hs htakes hp.escaped, react_eq htakes]
    exact bind_eq_ok.mpr ⟨_, hp.judged, hrecord⟩
  | apart hvalue =>
    refine ⟨.held found s (some e.2), ⟨(Progress.resolve_held found s e.2).trans hrecord, rfl⟩, fun args => ?_⟩
    exact (readFrom_read hleaf _ (readArgument_awaits hs htakes hp)).trans
      (readFrom_read hleaf args (readArgument_awaited hvalue))

/-- What is pending is judged before anything else that is given, and at the end at the latest. -/
theorem readFrom_stuck (hleaf : level.branches = false) (hp : p.resolve = .error .usage)
    (hopen : p.escaped = false) {args : List String} {entries : List (String × String)}
    (h : Gives args entries) (hknown : ∀ e ∈ entries, level.Takes e) :
    readFrom level p args = .error .usage := by
  -- the end judges what is pending, and so does the next argument, whichever form its option has
  cases h with
  | nil =>
    simp only [readFrom, hleaf, close, hp]
    rfl
  | @cons e _ args _ hform _ =>
    obtain ⟨s, hs, htakes, -⟩ := hknown e List.mem_cons_self
    cases hform with
    | attached =>
      rw [List.singleton_append, readFrom_argument hleaf, readArgument_assigned hs htakes hopen,
        react_eq htakes, hp]
      rfl
    | apart _ =>
      rw [List.cons_append, readFrom_argument hleaf, readArgument_dashed hs htakes hopen,
        Progress.await, hp]
      rfl

/-- **One option more** of a switch that has occurred and may not occur again: reading ends, be it now
or when the value is judged. -/
theorem readFrom_repeated (hleaf : level.branches = false) (hp : p.Holds found)
    (htakes : level.Takes e) (hold : ∃ e' ∈ found, e'.1 = e.1) (hunique : ¬level.repeats e.1)
    {form args : List String} {entries : List (String × String)} (hform : Form e form)
    (h : Gives args entries) (hknown : ∀ e ∈ entries, level.Takes e) :
    readFrom level p (form ++ args) = .error .usage := by
  obtain ⟨s, hs, htakes, -⟩ := htakes
  have hrefused := record_repeated hs hold hunique
  cases hform with
  | attached =>
    rw [List.singleton_append, readFrom_argument hleaf, readArgument_assigned hs htakes hp.escaped,
      react_eq htakes, hp.judged]
    exact bind_eq_error.mpr (.inl hrefused)
  | apart hvalue =>
    rw [List.cons_append, readFrom_read hleaf _ (readArgument_awaits hs htakes hp), List.singleton_append,
      readFrom_read hleaf args (readArgument_awaited hvalue)]
    exact readFrom_stuck hleaf ((Progress.resolve_held found s e.2).trans hrefused) rfl h hknown

/-! ### Runs -/

/-- **Ends.**  Where all options are settled and no two of them exclude each other, a level without
operands answers with what it found. -/
theorem close_eq (hoperands : level.operands = []) (hp : p.Holds found)
    (hcompatible : ∀ c ∈ level.conflicts, (∀ e ∈ found, e.1 ≠ c.1) ∨ ∀ e ∈ found, e.1 ≠ c.2) :
    close level p = .ok ⟨level, found, []⟩ := by
  have habsent : ∀ name, (∀ e ∈ found, e.1 ≠ name) →
      ¬(Progress.settled found).has name := by
    intro name hname hhas
    obtain ⟨e, he, hsame⟩ := (Progress.has_settled _ _).mp hhas
    exact hname e he hsame
  have hnone : ¬level.conflicts.any fun c => (Progress.settled found).has c.1
      && (Progress.settled found).has c.2 := by
    rw [List.any_eq_true]
    rintro ⟨c, hc, hboth⟩
    obtain ⟨hleft, hright⟩ := (Bool.and_eq_true _ _).mp hboth
    rcases hcompatible c hc with hnot | hnot
    · exact habsent _ hnot hleft
    · exact habsent _ hnot hright
  -- nothing is refused: no two options that exclude each other have both been found
  refine bind_eq_ok.mpr ⟨_, hp.judged, ?_⟩
  rw [if_neg hnone, hoperands]
  rfl

/-- **A level.**  A level without levels below it and without operands reads what arguments give, in
order, if it takes all of it. -/
theorem readFrom_gives (hleaf : level.branches = false) (hoperands : level.operands = [])
    {args : List String} {entries : List (String × String)} (h : Gives args entries)
    (hp : p.Holds found) (htakes : level.TakesAll (found ++ entries)) :
    readFrom level p args = .ok [⟨level, found ++ entries, []⟩] := by
  induction h generalizing p found with
  | nil =>
    rw [List.append_nil] at htakes ⊢
    simp only [readFrom, hleaf, close_eq hoperands hp htakes.compatible]
    rfl
  | @cons e form args entries hform _ ih =>
    obtain ⟨he, hnew⟩ := htakes.next
    obtain ⟨q, hq, hread⟩ := readFrom_new hleaf hp he hnew hform
    rw [List.append_cons] at htakes ⊢
    rw [hread]
    exact ih hq htakes

/-- **Repetitions.**  Where a switch occurs again that may not, the level is refused. -/
theorem readFrom_not_once (hleaf : level.branches = false) {args : List String}
    {entries : List (String × String)} (h : Gives args entries) (hp : p.Holds found)
    (hknown : ∀ e ∈ entries, level.Takes e) (hfound : level.Once found)
    (hrepeated : ¬level.Once (found ++ entries)) : readFrom level p args = .error .usage := by
  induction h generalizing p found with
  | nil => exact absurd hfound (by rwa [List.append_nil] at hrepeated)
  | @cons e form args entries hform h ih =>
    have he := hknown e List.mem_cons_self
    have hknown : ∀ e ∈ entries, level.Takes e := fun e' he' => hknown e' (List.mem_cons_of_mem _ he')
    by_cases hnew : (∃ e' ∈ found, e'.1 = e.1) → level.repeats e.1
    · obtain ⟨q, hq, hread⟩ := readFrom_new hleaf hp he hnew hform
      rw [List.append_cons] at hrepeated
      rw [hread]
      exact ih hq hknown (hfound.concat hnew) hrepeated
    · obtain ⟨hold, hunique⟩ := Classical.not_imp.mp hnew
      exact readFrom_repeated hleaf hp he hold hunique hform h hknown

/-- A command line that names a level without branches first is read by that level, from the second
argument on. -/
theorem read_level {name : String} (hlevel : Level.top.subcommand? name = some level)
    (args : List String) :
    read (name :: args) = readFrom level .start args >>= fun inner => .ok (⟨.top, [], []⟩ :: inner) := by
  have hbelow : (if mayDescend .top .start then Level.top.subcommand? name else none) = some level :=
    hlevel
  rw [read, readFrom, hbelow]
  rfl

end

end ThreatLedger.CommandLine
