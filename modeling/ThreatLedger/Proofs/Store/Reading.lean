/-
  Reading the values of entries one after the other.

  1. **Reading** — `readEach` reads the value of each entry; what cannot be read is blamed on its key.
  2. **The first failure** — in the order of the keys the first value that cannot be read is the one
     under the smallest key (`FirstUnread`), and reading gives all values or fails there
     (`readEach_cases`).
-/
import ThreatLedger.Proofs.Results
import ThreatLedger.Store.Basic

namespace ThreatLedger

variable {ε ε' α : Type}

/-! ## Reading -/

/-- The values of entries, as `read` reads them; `blame` turns what is wrong with a value into an error
that names its key. -/
def readEach (read : Bytes → Except ε α) (blame : String → ε → ε') (es : List Entry) :
    Except ε' (List α) :=
  es.mapM fun e => (read e.2).mapError (blame e.1)

section

variable {read : Bytes → Except ε α} {blame : String → ε → ε'} {e : Entry} {es : List Entry}

theorem readEach_cons_error {cause : ε} (h : read e.2 = .error cause) :
    readEach read blame (e :: es) = .error (blame e.1 cause) := by
  rw [readEach, List.mapM_cons, h]
  rfl

theorem readEach_cons_ok {a : α} (h : read e.2 = .ok a) :
    readEach read blame (e :: es) = (readEach read blame es).map (a :: ·) := by
  rw [readEach, List.mapM_cons, h]
  rfl

end

/-! ## The first failure -/

/-- Whether the value of an entry cannot be read. -/
def Unread (read : Bytes → Except ε α) (e : Entry) : Prop := ∃ cause, read e.2 = .error cause

/-- Of the entries whose values cannot be read, the one with the smallest key has this key, and this is
what is wrong with its value. -/
structure FirstUnread (read : Bytes → Except ε α) (es : List Entry) (key : String) (cause : ε) :
    Prop where
  unread : ∃ value, (key, value) ∈ es ∧ read value = .error cause
  first : ∀ e ∈ es, Unread read e → key ≤ e.1

variable (read : Bytes → Except ε α) (blame : String → ε → ε')

/-- Entries in the order of their keys are all read, or reading stops at the first one that cannot
be. -/
theorem readEach_cases {es : List Entry} (hsorted : es.Pairwise fun a b => a.1 < b.1) :
    (∃ values, es.map (fun e => read e.2) = values.map .ok ∧ readEach read blame es = .ok values) ∨
      ∃ key cause, FirstUnread read es key cause ∧
        readEach read blame es = .error (blame key cause) := by
  induction es with
  | nil => exact .inl ⟨[], rfl, rfl⟩
  | cons e es ih =>
    obtain ⟨hbehind, hsorted⟩ := List.pairwise_cons.mp hsorted
    cases he : read e.2 with
    -- the first entry is the one to blame: all others are behind it
    | error cause =>
      refine .inr ⟨e.1, cause, ⟨⟨e.2, List.mem_cons_self, he⟩, fun f hf _ => ?_⟩,
        readEach_cons_error he⟩
      rcases List.mem_cons.mp hf with rfl | hf
      · exact String.le_refl _
      · exact String.not_lt.mp (String.lt_asymm (hbehind f hf))
    | ok a =>
      rw [readEach_cons_ok he]
      rcases ih hsorted with ⟨values, hvalues, hread⟩ | ⟨key, cause, ⟨hunread, hfirst⟩, hread⟩
      · refine .inl ⟨a :: values, ?_, congrArg (Except.map _) hread⟩
        rw [List.map_cons, List.map_cons, he, hvalues]
      · obtain ⟨value, hmem, hvalue⟩ := hunread
        refine .inr ⟨key, cause, ⟨⟨value, List.mem_cons_of_mem _ hmem, hvalue⟩, fun f hf hbad => ?_⟩,
          congrArg (Except.map _) hread⟩
        rcases List.mem_cons.mp hf with rfl | hf
        · obtain ⟨_, hbad⟩ := hbad
          cases he.symm.trans hbad
        · exact hfirst f hf hbad

variable {read}

/-- Where every value is read, none is left unread. -/
theorem not_unread_of_map {es : List Entry} {values : List α}
    (h : es.map (fun e => read e.2) = values.map .ok) : ∀ e ∈ es, ¬Unread read e := by
  rintro e he ⟨cause, hcause⟩
  have hmem : read e.2 ∈ values.map .ok := h ▸ List.mem_map_of_mem he
  obtain ⟨a, -, ha⟩ := List.mem_map.mp hmem
  cases ha.trans hcause

end ThreatLedger
