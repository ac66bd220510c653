/-
  A record is submitted by its options or by its text, and both give the same record.

  1. **Options** — a text has an option of its own, and there is one more for each role that may see the
     record.  `Describes` leaves it open in which order they stand, but for the roles among themselves.
  2. **Command lines** — the level of `create` takes such options, each as one argument, and reads them as
     they are: a value behind an equals sign may be empty or look like an option.  It refuses a repetition,
     but not of a role.
  3. **Records** — an option is found by its name wherever it stands, so that the options describe one
     record; and where a text is given, nothing else counts (`create_forms_agree`).
-/
import ThreatLedger.CommandLine.Submission
import ThreatLedger.Proofs.CommandLine.Switches
import ThreatLedger.Proofs.Record.Lossless
import ThreatLedger.Proofs.Record.Tolerance

namespace ThreatLedger

open CommandLine

/-! ## Options -/

namespace Record

/-- The name of the option for a text. -/
def TextField.option : TextField → String
  | .uuid => "uuid"
  | .description => "description"
  | .timestamp => "timestamp"
  | .sender => "sender"
  | .cid => "cid"
  | .vaultKey => "vault-key"
  | .sha256 => "sha256"

/-- The name of the option for a role that may see the record. -/
def accessOption : String := "access"

/-- The name of the option for a record as a whole. -/
def jsonOption : String := "json"

/-- The options for the texts of a record. -/
def textOptions (r : Record) : List (String × String) := textFields.map fun k => (k.option, k.get r)

/-- Options that say what stands in a record: one for each text, in any order, and anywhere between them
one for each role that may see it, in order. -/
structure Describes (options : List (String × String)) (r : Record) : Prop where
  texts : (options.filter (·.1 ≠ accessOption)).Perm r.textOptions
  roles : options.filter (·.1 = accessOption) = r.access.map (accessOption, ·)

/-- The options that may be given for a record. -/
def optionNames : List String := jsonOption :: accessOption :: textFields.map TextField.option

/-- Options for a record, each of them once but for those of roles. -/
structure GivenOnce (options : List (String × String)) : Prop where
  known : ∀ e ∈ options, e.1 ∈ optionNames
  once : ((options.filter (·.1 ≠ accessOption)).map (·.1)).Nodup

/-- What holds of every option is shown for the JSON form, for the access list and once for all
texts. -/
theorem forall_optionNames {P : String → Prop} (hjson : P jsonOption) (haccess : P accessOption)
    (htext : ∀ k : TextField, P k.option) : ∀ name ∈ optionNames, P name := by
  intro name hname
  rcases List.mem_cons.mp hname with rfl | hname
  · exact hjson
  · rcases List.mem_cons.mp hname with rfl | hname
    · exact haccess
    · obtain ⟨k, -, rfl⟩ := List.mem_map.mp hname
      exact htext k

/-- No text goes by the option of the access list, which may be repeated. -/
theorem option_ne_access (k : TextField) : k.option ≠ accessOption := by cases k <;> decide

/-- The options for the texts of a record name each text once, in the order of the fields. -/
theorem textOptions_names (r : Record) : r.textOptions.map (·.1) = textFields.map TextField.option :=
  List.map_map

variable {options : List (String × String)} {r : Record}

/-- Options that describe a record are options of `create`; the JSON form is none of them. -/
theorem Describes.known (h : Describes options r) :
    ∀ e ∈ options, e.1 ∈ accessOption :: textFields.map TextField.option := by
  intro e he
  by_cases hrole : e.1 = accessOption
  · exact hrole ▸ List.mem_cons_self
  · have hmem : e ∈ r.textOptions :=
      h.texts.mem_iff.mp (List.mem_filter.mpr ⟨he, decide_eq_true hrole⟩)
    rw [← textOptions_names r]
    exact List.mem_cons_of_mem _ (List.mem_map_of_mem hmem)

/-- No option of a description is repeated but that of the access list: the others are a permutation of
those for the texts. -/
theorem Describes.givenOnce (h : Describes options r) : GivenOnce options where
  known e he := List.mem_cons_of_mem _ (h.known e he)
  once := by
    rw [(h.texts.map _).nodup_iff, textOptions_names]
    decide

/-- Each text of the record is among the options that describe it, wherever it stands there. -/
theorem Describes.text_mem (h : Describes options r) (k : TextField) : (k.option, k.get r) ∈ options := by
  have hk : k ∈ textFields := by cases k <;> decide
  exact List.mem_of_mem_filter (h.texts.mem_iff.mpr (List.mem_map_of_mem hk))

end Record

/-! ## Command lines -/

namespace CommandLine

open Record

theorem all_eq_nil {g : Given} {name : String} (h : ∀ e ∈ g.found, e.1 ≠ name) : g.all name = [] := by
  rw [Given.all, List.map_eq_nil_iff, List.filter_eq_nil_iff]
  exact fun e he hsame => h e he (of_decide_eq_true hsame)

/-- An option that is not given has no value, and so its default is taken. -/
theorem get?_eq_none {g : Given} {name : String} (h : ∀ e ∈ g.found, e.1 ≠ name) :
    g.get? name = none := by
  rw [Given.get?, all_eq_nil h]
  rfl

/-- `create` takes each of its options with any value, be that empty or begin like an option itself. -/
theorem takes_option : ∀ name ∈ optionNames, ∀ value, Level.create.Takes (name, value) :=
  forall_optionNames (fun _ => ⟨_, rfl, rfl, rfl⟩) (fun _ => ⟨_, rfl, rfl, rfl⟩) fun k _ => by
    cases k <;> exact ⟨_, rfl, rfl, rfl⟩

/-- The access list is the only option of `create` that may be repeated. -/
theorem repeats_iff : ∀ name ∈ optionNames, Level.create.repeats name ↔ name = accessOption :=
  forall_optionNames (by decide) (by decide) fun k => by cases k <;> decide

/-- Only the option for a role may occur again, so that an option is refused exactly if it is another
one and has occurred. -/
theorem once_iff {options : List (String × String)} (hknown : ∀ e ∈ options, e.1 ∈ optionNames) :
    Level.create.Once options ↔ ((options.filter (·.1 ≠ accessOption)).map (·.1)).Nodup := by
  rw [List.Nodup, List.pairwise_map, List.pairwise_filter, Level.Once]
  refine List.Pairwise.iff_of_mem fun {e e'} _ he' => ?_
  rw [repeats_iff _ (hknown e' he')]
  constructor
  · exact fun h _ hother hsame => of_decide_eq_true hother (h hsame)
  · intro h hsame
    by_contra hother
    exact h (decide_eq_true (hsame ▸ hother)) (decide_eq_true hother) hsame

section

variable {options : List (String × String)} (h : GivenOnce options)

include h

/-- Options that describe a record are taken by `create` one after the other. -/
theorem takesAll_options : Level.create.TakesAll options where
  known e he := takes_option e.1 (h.known e he) e.2
  once := (once_iff h.known).mpr h.once
  compatible c hc := by
    refine .inr fun e he hfile => ?_
    have hknown := h.known e he
    rw [hfile, List.mem_singleton.mp hc] at hknown
    exact absurd hknown (by decide)

/-- **Reading.**  Options for a record that are given once are read as they are, and nothing else is:
the options of the top level, which may stand here as well, have other names. -/
theorem parse_create {args : List String} (hargs : Gives args options) :
    parse ("create" :: args)
      = .ok ⟨none, none, 0, .create (Given.createOptions ⟨.create, options, []⟩)⟩ := by
  have hread : read ("create" :: args) = .ok [⟨.top, [], []⟩, ⟨.create, options, []⟩] :=
    (read_level rfl args).trans (bind_eq_ok.mpr
      ⟨_, readFrom_gives rfl rfl hargs (Progress.holds_settled []) (takesAll_options h), rfl⟩)
  -- a shared option is looked for in the innermost level first, and is on neither
  have hshared : ∀ name, name ∉ optionNames →
      innermost [⟨.top, [], []⟩, ⟨.create, options, []⟩] name = [] := by
    intro name hname
    have hall : Given.all ⟨.create, options, []⟩ name = [] :=
      all_eq_nil fun e he hsame => hname (hsame ▸ h.known e he)
    show ([[], Given.all _ name].reverse.find? _).getD [] = []
    rw [hall]
    rfl
  refine bind_eq_ok.mpr ⟨_, hread, ?_⟩
  rw [hshared "config" (by decide), hshared "role" (by decide), hshared "verbose" (by decide)]
  rfl

end

/-- Options are refused if one of them is given again that is not for a role. -/
theorem parse_create_repeated {args : List String} {options : List (String × String)}
    (hargs : Gives args options) (hknown : ∀ e ∈ options, e.1 ∈ optionNames)
    (hrepeated : ¬GivenOnce options) : parse ("create" :: args) = .error .usage := by
  have htakes : ∀ e ∈ options, Level.create.Takes e := fun e he => takes_option e.1 (hknown e he) e.2
  have hnot_once : ¬Level.create.Once options := fun h => hrepeated ⟨hknown, (once_iff hknown).mp h⟩
  have hread : readFrom .create .start args = .error .usage :=
    readFrom_not_once rfl hargs (Progress.holds_settled []) htakes List.Pairwise.nil hnot_once
  rw [parse, read_level rfl, hread]
  rfl

/-! ## Records -/

section

variable {options : List (String × String)} (h : GivenOnce options)

include h

/-- An option that may be given once is found by its name, wherever it stands: the others of its name,
of which there is none, would have to stand before or behind it. -/
theorem get?_of_mem {e : String × String} (he : e ∈ options) (hne : e.1 ≠ accessOption) :
    Given.get? ⟨.create, options, []⟩ e.1 = some e.2 := by
  have hfind : options.find? (·.1 = e.1) = some e := by
    cases hfound : options.find? (·.1 = e.1) with
    | none =>
      have hdiffers := List.find?_eq_none.mp hfound e he
      exact absurd (decide_eq_true rfl) hdiffers
    | some e' =>
      have hsame : e'.1 = e.1 := by simpa using List.find?_some hfound
      have he' := List.mem_of_find?_eq_some hfound
      refine congrArg some (List.inj_on_of_nodup_map h.once ?_ ?_ hsame)
      · exact List.mem_filter.mpr ⟨he', decide_eq_true (hsame ▸ hne)⟩
      · exact List.mem_filter.mpr ⟨he, decide_eq_true hne⟩
  rw [Given.get?, Given.all, List.head?_map, List.head?_filter, hfind]
  rfl

end

/-- Without a text and without a file, every option counts for itself. -/
theorem record_createOptions {g : Given} (hjson : g.get? jsonOption = none)
    (hfile : g.get? "file" = none) (sender : Option String) (generated : Generated) (tree : Tree) :
    g.createOptions.record sender generated tree = .ok
      { uuid := (g.get? TextField.uuid.option).getD generated.uuid
        description := (g.get? TextField.description.option).getD ""
        timestamp := (g.get? TextField.timestamp.option).getD generated.time
        sender := (g.get? TextField.sender.option <|> sender).getD ""
        cid := (g.get? TextField.cid.option).getD ""
        vaultKey := (g.get? TextField.vaultKey.option).getD ""
        sha256 := (g.get? TextField.sha256.option).getD ""
        access := g.all accessOption } := by
  have hjson : g.createOptions.json = none := hjson
  have hfile : g.createOptions.file = none := hfile
  simp only [CreateOptions.record, CreateOptions.digest, hjson, hfile]
  rfl

/-- **The form of options** makes the record that they describe, whatever sender is the default: its own
text is given. -/
theorem record_of_describes {options : List (String × String)} {r : Record}
    (h : Describes options r) (sender : Option String) (generated : Generated) (tree : Tree) :
    (Given.createOptions ⟨.create, options, []⟩).record sender generated tree = .ok r := by
  have hget : ∀ k : TextField, Given.get? ⟨.create, options, []⟩ k.option = some (k.get r) :=
    fun k => get?_of_mem h.givenOnce (h.text_mem k) (option_ne_access k)
  have haccess : Given.all ⟨.create, options, []⟩ accessOption = r.access := by
    rw [Given.all, h.roles, List.map_map]
    exact List.map_id _
  have hother : ∀ name, name ∉ accessOption :: textFields.map TextField.option →
      Given.get? ⟨.create, options, []⟩ name = none :=
    fun name hname => get?_eq_none fun e he hsame => hname (hsame ▸ h.known e he)
  rw [record_createOptions (hother jsonOption (by decide)) (hother "file" (by decide))]
  simp only [hget, haccess]
  rfl

/-- Where a text is given, the record is the one that the text holds. -/
theorem record_of_json {g : Given} {text : String} {r : Record}
    (hjson : g.get? jsonOption = some text) (htext : Bytes.ofText text = r.encode)
    (sender : Option String) (generated : Generated) (tree : Tree) :
    g.createOptions.record sender generated tree = .ok r := by
  have hjson : g.createOptions.json = some text := hjson
  simp only [CreateOptions.record, hjson, parseRecord_encode htext]
  rfl

/-- The text of a record does not look like an option, as it begins with a brace; so it may stand in an
argument of its own. -/
theorem text_front {r : Record} {text : String} (h : Bytes.ofText text = r.encode) :
    text.toList.head? ≠ some '-' := by
  intro hdash
  obtain ⟨cs, hcs⟩ := List.head?_eq_some_iff.mp hdash
  -- the first byte of the text is a brace
  rw [Bytes.ofText_eq, hcs] at h
  cases h

/-- **Both forms.**  Options that describe a record, each as one argument, give exactly this record: in any
order, with any texts, also empty ones and such that look like options, and for any caller.  The text of
the record gives the same record, in an argument of its own or behind an equals sign, whichever other
options of a record stand before and behind it, and for any caller.  Options are refused, in either form,
if any of them but those for roles is given again. -/
theorem create_forms_agree (r : Record) :
    (∀ options, Describes options r →
      ∃ o, parse ("create" :: options.map assigned) = .ok ⟨none, none, 0, .create o⟩ ∧
        ∀ sender generated tree, o.record sender generated tree = .ok r) ∧
    (∃ text, Bytes.ofText text = r.encode) ∧
    (∀ text before after form, Bytes.ofText text = r.encode →
      GivenOnce (before ++ (jsonOption, text) :: after) →
      form ∈ [[dashed jsonOption, text], [assigned (jsonOption, text)]] →
      ∃ o, parse ("create" :: (before.map assigned ++ form ++ after.map assigned))
          = .ok ⟨none, none, 0, .create o⟩ ∧
        ∀ sender generated tree, o.record sender generated tree = .ok r) ∧
    ∀ args options, Gives args options → (∀ e ∈ options, e.1 ∈ optionNames) →
      ¬GivenOnce options → parse ("create" :: args) = .error .usage := by
  refine ⟨fun options h => ?options, r.encode_isText, fun text before after form htext h hform => ?text,
    fun args options => parse_create_repeated⟩
  case options =>
    exact ⟨_, parse_create h.givenOnce (gives_assigned options), record_of_describes h⟩
  case text =>
    -- both ways of giving the text are forms of the one option
    have hgives : Gives (form ++ after.map assigned) ((jsonOption, text) :: after) := by
      rcases List.mem_cons.mp hform with rfl | hform
      · exact .cons (e := (jsonOption, text)) (.apart (text_front htext)) (gives_assigned after)
      · rw [List.mem_singleton.mp hform]
        exact .cons .attached (gives_assigned after)
    have hne : jsonOption ≠ accessOption := by decide
    have hjson := get?_of_mem h (e := (jsonOption, text)) (by simp) hne
    rw [List.append_assoc]
    exact ⟨_, parse_create h ((gives_assigned before).append hgives), record_of_json hjson htext⟩

/-- A record with texts that are empty or look like options, and with a role that stands in it twice. -/
def dashing : Record where
  uuid := ""
  description := "--uuid=x"
  timestamp := "-"
  sender := "a=b"
  cid := "--"
  vaultKey := "help"
  sha256 := "-h"
  access := ["b", "--json", "b"]

/-- Its options, in an order of their own. -/
def dashingOptions : List (String × String) :=
  [("access", "b"), ("sha256", "-h"), ("description", "--uuid=x"), ("access", "--json"), ("uuid", ""),
    ("vault-key", "help"), ("cid", "--"), ("access", "b"), ("timestamp", "-"), ("sender", "a=b")]

theorem describes_dashing : Describes dashingOptions dashing := ⟨by decide, by decide⟩

/-- These options and the text of this record between options that do not count; and an option that is
given twice. -/
theorem dashing_forms_agree :
    (∃ o, parse ("create" :: dashingOptions.map assigned) = .ok ⟨none, none, 0, .create o⟩ ∧
      o.record (some "sender") ⟨"generated", "now"⟩ KeyMap.empty = .ok dashing) ∧
    (∃ text o, parse ["create", "--uuid=other", "--json", text, "--access=c"]
        = .ok ⟨none, none, 0, .create o⟩ ∧
      o.record (some "sender") ⟨"generated", "now"⟩ KeyMap.empty = .ok dashing) ∧
    parse ["create", "--cid=c", "--cid", "c"] = .error .usage := by
  obtain ⟨hoptions, ⟨text, htext⟩, hform, hrepeated⟩ := create_forms_agree dashing
  refine ⟨?options, ?text, ?repeated⟩
  case options =>
    obtain ⟨o, hparse, hrecord⟩ := hoptions dashingOptions describes_dashing
    exact ⟨o, hparse, hrecord _ _ _⟩
  case text =>
    have honce : GivenOnce [("uuid", "other"), (jsonOption, text), (accessOption, "c")] := by
      refine ⟨?_, ?_⟩
      · simp only [List.forall_mem_cons]
        decide
      · show List.Nodup ["uuid", jsonOption]
        decide
    obtain ⟨o, hparse, hrecord⟩ := hform text [("uuid", "other")] [(accessOption, "c")]
      [dashed jsonOption, text] htext honce List.mem_cons_self
    exact ⟨text, o, hparse, hrecord _ _ _⟩
  case repeated =>
    have hattached : Form ("cid", "c") ["--cid=c"] := .attached
    have hapart : Form ("cid", "c") ["--cid", "c"] := .apart (by decide)
    have hnot_once : ¬GivenOnce [("cid", "c"), ("cid", "c")] := fun h => absurd h.once (by decide)
    exact hrepeated _ _ (.cons hattached (.cons hapart .nil)) (by decide) hnot_once

end CommandLine
end ThreatLedger
