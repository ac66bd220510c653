/-
  What a run generates: a UUID from random bytes, and the time from a clock.

  1. **UUIDs** — version 4: all bits are random but those of the version and the variant.
  2. **Times** — the calendar date and the time of day, in seconds, for a count of seconds since 1970.
-/
import ThreatLedger.Bytes
import ThreatLedger.Text.Padded

namespace ThreatLedger.CommandLine

open Text (padded)

/-- What a run generates. -/
structure Generated where
  uuid : String
  time : String
  deriving DecidableEq, Repr

/-! ## UUIDs -/

/-- Puts the version and the variant into random bytes. -/
def markUuid (b : Bytes) : Bytes :=
  b.mapIdx fun i x =>
    if i = 6 then (x &&& 0x0f) ||| 0x40 else if i = 8 then (x &&& 0x3f) ||| 0x80 else x

/-- The UUID that 16 random bytes give. -/
def uuidText (random : Bytes) : String :=
  let b := markUuid random
  let group (start size : Nat) : String := Bytes.hex ((b.drop start).take size)
  "-".intercalate [group 0 4, group 4 2, group 6 2, group 8 2, group 10 6]

/-! ## Times -/

/-- How many days lie between the start of the year 0, counted from March, and the start of 1970. -/
def daysBefore1970 : Nat := 719468

/-- The year, month and day that follow some days after the start of 1970.  Years are counted from March
on, so that a leap day is the last day of its year. -/
def dateAfter (days : Nat) : Nat × Nat × Nat :=
  let z := days + daysBefore1970
  let inEra := z % 146097
  let yearInEra := (inEra - inEra / 1460 + inEra / 36524 - inEra / 146096) / 365
  let inYear := inEra - (365 * yearInEra + yearInEra / 4 - yearInEra / 100)
  let shifted := (5 * inYear + 2) / 153
  let day := inYear - (153 * shifted + 2) / 5 + 1
  let month := if shifted < 10 then shifted + 3 else shifted - 9
  let year := yearInEra + z / 146097 * 400
  (if month ≤ 2 then year + 1 else year, month, day)

/-- The time that is some seconds after the start of 1970. -/
def timeText (seconds : Nat) : String :=
  let (year, month, day) := dateAfter (seconds / 86400)
  let inDay := seconds % 86400
  padded 4 year ++ "-" ++ padded 2 month ++ "-" ++ padded 2 day ++ "T" ++ padded 2 (inDay / 3600)
    ++ ":" ++ padded 2 (inDay / 60 % 60) ++ ":" ++ padded 2 (inDay % 60) ++ "Z"

end ThreatLedger.CommandLine
