/-
  Numbers with leading zeros.
-/
namespace ThreatLedger.Text

/-- A natural in decimal digits, with leading zeros up to a width. -/
def padded (width n : Nat) : String :=
  let digits := toString n
  String.ofList (List.replicate (width - digits.length) '0') ++ digits

end ThreatLedger.Text
