/-
  Why a JSON text is refused.

  1. **Causes** — one constructor a cause.  A text is read from left to right, so the cause is the first
     problem met.
  2. **Wording** — `Error.message`, and `Found.text` for what stands where something else was expected.
-/
import ThreatLedger.Text.Quoted
import ThreatLedger.Json.Value

namespace ThreatLedger.Json

/-- The two kinds of containers. -/
inductive Frame
  | list
  | object
  deriving DecidableEq, Repr

/-- What a text breaks off in. -/
inductive Part
  | frame (f : Frame)
  | string
  | value
  deriving DecidableEq, Repr

/-- What stands at a place, as far as a complaint about its type says. -/
inductive Found
  | null
  | bool (b : Bool)
  | number (n : Number)
  | string (s : String)
  | container (f : Frame)
  deriving DecidableEq, Repr

/-- Why a JSON text is refused. -/
inductive Error
  | unfinished (p : Part)
  | expectedColon
  | expectedSeparator (f : Frame)
  | expectedLiteral
  | expectedValue
  | invalidEscape
  | invalidNumber
  | numberOutOfRange
  | invalidText
  | controlCharacter
  | nameNotString
  | loneSurrogate
  | unfinishedSurrogate
  | trailingComma
  | trailingCharacters
  | tooDeep
  | wrongType (found : Found) (expected : String)
  | outOfRange (n : Int) (expected : String)
  | tooShort (length : Nat) (expected : String)
  | missingField (name : String)
  | duplicateField (name : String)
  deriving DecidableEq, Repr

/-! ## Wording -/

/-- The words for a part of a text. -/
def Part.text : Part → String
  | .frame .list => "a list"
  | .frame .object => "an object"
  | .string => "a string"
  | .value => "a value"

/-- The words for what was found. -/
def Found.text : Found → String
  | .null => "null"
  | .bool true => "boolean `true`"
  | .bool false => "boolean `false`"
  | .number (.integer n) => "integer `" ++ toString n ++ "`"
  | .number (.real x) => "floating point `" ++ (Number.real x).text ++ "`"
  | .string s => "string " ++ Text.quoted s
  | .container .list => "sequence"
  | .container .object => "map"

/-- The message of an error. -/
def Error.message : Error → String
  | .unfinished p => "EOF while parsing " ++ p.text
  | .expectedColon => "expected `:`"
  | .expectedSeparator .list => "expected `,` or `]`"
  | .expectedSeparator .object => "expected `,` or `\x7d`"
  | .expectedLiteral => "expected ident"
  | .expectedValue => "expected value"
  | .invalidEscape => "invalid escape"
  | .invalidNumber => "invalid number"
  | .numberOutOfRange => "number out of range"
  | .invalidText => "invalid unicode code point"
  | .controlCharacter => "control character (\\u0000-\\u001F) found while parsing a string"
  | .nameNotString => "key must be a string"
  | .loneSurrogate => "lone leading surrogate in hex escape"
  | .unfinishedSurrogate => "unexpected end of hex escape"
  | .trailingComma => "trailing comma"
  | .trailingCharacters => "trailing characters"
  | .tooDeep => "recursion limit exceeded"
  | .wrongType found expected => "invalid type: " ++ found.text ++ ", expected " ++ expected
  | .outOfRange n expected => "invalid value: integer `" ++ toString n ++ "`, expected " ++ expected
  | .tooShort n expected => "invalid length " ++ toString n ++ ", expected " ++ expected
  | .missingField name => "missing field `" ++ name ++ "`"
  | .duplicateField name => "duplicate field `" ++ name ++ "`"

end ThreatLedger.Json
