/-
  Dates and times in a TOML document.

  1. **Forms** — a date, a time, or both with a `T` or a blank between them; where both stand, an offset
     may follow.
  2. **Calendar** — a date must exist and a time must be one of a day, with a leap second at most.
  3. **Text** — the form that is kept: `T` between date and time, and a fraction of a second cut to nine
     digits and written without trailing zeros.
-/
import ThreatLedger.Text.Padded

namespace ThreatLedger.Toml.Moment

open Text (padded)

/-! ## Parts -/

/-- The value of a decimal digit. -/
def digit? (c : Char) : Option Nat := if c.isDigit then some (c.toNat - '0'.toNat) else none

/-- A number of exactly `n` digits, and the rest. -/
def fixed? : Nat → List Char → Option (Nat × List Char)
  | 0, cs => some (0, cs)
  | n + 1, cs =>
    match cs with
    | [] => none
    | c :: cs => do
      let d ← digit? c
      let (m, cs) ← fixed? n cs
      some (d * Nat.pow 10 n + m, cs)

/-- A character, and the rest behind it. -/
def expect (c : Char) : List Char → Option (List Char)
  | [] => none
  | d :: cs => if d = c then some cs else none

/-! ## Dates -/

/-- Whether a year has a leap day. -/
def isLeap (year : Nat) : Bool := year % 4 = 0 && (year % 100 ≠ 0 || year % 400 = 0)

/-- How many days a month has. -/
def daysIn (year month : Nat) : Nat :=
  if month = 2 then if isLeap year then 29 else 28
  else if month = 4 || month = 6 || month = 9 || month = 11 then 30
  else 31

/-- A date as text, and the rest. -/
def date? (cs : List Char) : Option (String × List Char) := do
  let (year, cs) ← fixed? 4 cs
  let cs ← expect '-' cs
  let (month, cs) ← fixed? 2 cs
  let cs ← expect '-' cs
  let (day, cs) ← fixed? 2 cs
  if 1 ≤ month ∧ month ≤ 12 ∧ 1 ≤ day ∧ day ≤ daysIn year month then
    some (padded 4 year ++ "-" ++ padded 2 month ++ "-" ++ padded 2 day, cs)
  else none

/-! ## Times -/

/-- The digits of a fraction of a second as they are kept. -/
def fractionText (digits : List Char) : String :=
  let kept := ((digits.take 9).reverse.dropWhile (· = '0')).reverse
  if kept.isEmpty then "" else "." ++ String.ofList kept

/-- The fraction of a second that may follow, as text, and the rest. -/
def fraction? (cs : List Char) : Option (String × List Char) :=
  match expect '.' cs with
  | none => some ("", cs)
  | some r =>
    let digits := r.takeWhile Char.isDigit
    if digits.isEmpty then none else some (fractionText digits, r.dropWhile Char.isDigit)

/-- A time as text, and the rest. -/
def time? (cs : List Char) : Option (String × List Char) := do
  let (hour, cs) ← fixed? 2 cs
  let cs ← expect ':' cs
  let (minute, cs) ← fixed? 2 cs
  let cs ← expect ':' cs
  let (second, cs) ← fixed? 2 cs
  let (fraction, cs) ← fraction? cs
  if hour ≤ 23 ∧ minute ≤ 59 ∧ second ≤ 60 then
    some (padded 2 hour ++ ":" ++ padded 2 minute ++ ":" ++ padded 2 second ++ fraction, cs)
  else none

/-! ## Offsets -/

/-- The hours and minutes of an offset that ends a text. -/
def offsetSize? (cs : List Char) : Option (Nat × Nat) := do
  let (hours, cs) ← fixed? 2 cs
  let cs ← expect ':' cs
  let (minutes, cs) ← fixed? 2 cs
  if cs.isEmpty ∧ hours ≤ 23 ∧ minutes ≤ 59 then some (hours, minutes) else none

/-- The offset that ends a text, as text; there need not be one. -/
def offset? : List Char → Option String
  | [] => some ""
  | ['Z'] | ['z'] => some "Z"
  | sign :: cs =>
    if sign = '+' ∨ sign = '-' then do
      let (hours, minutes) ← offsetSize? cs
      let sign := if sign = '-' ∧ 0 < hours + minutes then "-" else "+"
      some (sign ++ padded 2 hours ++ ":" ++ padded 2 minutes)
    else none

/-! ## Moments -/

/-- Whether a character may stand between a date and a time. -/
def isSeparator (c : Char) : Bool := c = 'T' || c = 't' || c = ' '

/-- What follows a date: nothing, or a time with or without an offset. -/
def behindDate? (date : String) : List Char → Option String
  | [] => some date
  | c :: cs =>
    if isSeparator c then do
      let (time, cs) ← time? cs
      let offset ← offset? cs
      some (date ++ "T" ++ time ++ offset)
    else none

/-- The text of a date, of a time, or of both. -/
def ofLexeme? (cs : List Char) : Option String :=
  match date? cs with
  | some (date, r) => behindDate? date r
  | none =>
    match time? cs with
    | some (time, []) => some time
    | _ => none

/-- Whether a text is a date, behind which a blank may lead on to a time. -/
def isDate (cs : List Char) : Bool :=
  match date? cs with
  | some (_, []) => true
  | _ => false

end ThreatLedger.Toml.Moment
