/-
  Nothing of a record is lost in its bytes.

  1. **Texts** — the bytes of a record are the UTF-8 form of a text, which can be submitted.
  2. **Lossless** — whatever stands in the fields, reading the bytes or the text gives the record back,
     and reading the text of a page gives the page back (`encoding_lossless`).

  A record has many texts: members may stand in any order, and a character may be escaped or not.  Only
  one of them is written.
-/
import ThreatLedger.Ledger.Operations
import ThreatLedger.Proofs.Json.Texts
import ThreatLedger.Proofs.Record.RoundTrip

namespace ThreatLedger

open Ledger

/-! ## Texts -/

theorem Record.encode_isText (r : Record) : r.encode.IsText := Json.encode_isText _

theorem Page.encode_isText (p : Page) : p.encode.IsText := Json.encode_isText _

/-! ## Lossless -/

namespace Record

/-- Different records have different encodings: each is decoded to its own record, so that one encoding
cannot be that of two. -/
theorem encode_injective : Function.Injective encode := by
  intro r s h
  have hread := decode_encode r
  rw [h, decode_encode s] at hread
  exact (Except.ok.inj hread).symm

theorem decodeStored_encode (key : String) (r : Record) :
    decodeStored key r.encode = .ok r := by
  rw [decodeStored, decode_encode]
  rfl

/-- A text whose bytes are the encoding of a record is parsed as that record, so that a command line can
be given one. -/
theorem parseRecord_encode {text : String} {r : Record} (h : Bytes.ofText text = r.encode) :
    parseRecord text = .ok r := by
  rw [parseRecord, parse, h, decode_encode]
  rfl

/-- **Lossless.**  The bytes that a record is stored as hold the record, under any key; they are a text,
and the same record is submitted by it, so that different records have different bytes.  A record that
was read from any bytes is read again from its own ones.  The text of a page holds the page. -/
theorem encoding_lossless :
    (∀ key r, decodeStored key (encode r) = .ok r) ∧
    (∀ r, ∃ text, Bytes.ofText text = encode r ∧ parseRecord text = .ok r) ∧
    Function.Injective encode ∧
    (∀ key value r, decodeStored key value = .ok r → decodeStored key (encode r) = .ok r) ∧
    ∀ p : Page, ∃ text, Bytes.ofText text = p.encode ∧ Page.parse text = .ok p := by
  refine ⟨decodeStored_encode, fun r => ?text, encode_injective,
    fun key _ r _ => decodeStored_encode key r, fun p => ?page⟩
  case text =>
    obtain ⟨text, htext⟩ := r.encode_isText
    exact ⟨text, htext, parseRecord_encode htext⟩
  case page =>
    obtain ⟨text, htext⟩ := p.encode_isText
    refine ⟨text, htext, ?_⟩
    rw [Page.parse, htext]
    exact p.reads.whole

/-- A record with a quote, a backslash, control characters, and a character of four bytes. -/
def awkward : Record :=
  { empty with
    uuid := "\"\\\n\x01\x7f"
    description := "😀"
    access := ["b", "a", "b"] }

/-- Another text of the same record: blanks, another order, characters that need no escape, and a member
that is passed over. -/
def awkwardText : String :=
  "\x7b \"AccessList\": [\"b\", \"\\u0061\", \"b\"], \"Reported\": [1, null],\n" ++
    "\"Description\": \"\\ud83d\\ude00\", \"UUID\": \"\\\"\\\\\\n\\u0001\\u007F\" \x7d"

/-- The text is read, and written in another way, and read again.  The writing differs from the text,
but the record is the same. -/
theorem awkward_lossless :
    decodeStored "CTI_" (Bytes.ofText awkwardText) = .ok awkward ∧
    decodeStored "CTI_" awkward.encode = .ok awkward ∧ awkward.encode ≠ Bytes.ofText awkwardText := by
  obtain ⟨-, -, -, hagain, -⟩ := encoding_lossless
  have hread : decodeStored "CTI_" (Bytes.ofText awkwardText) = .ok awkward := by decide +kernel
  exact ⟨hread, hagain "CTI_" _ awkward hread, by decide +kernel⟩

end Record
end ThreatLedger
