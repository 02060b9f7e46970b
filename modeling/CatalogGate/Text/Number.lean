-- Whole numbers that count things, as text.
import CatalogGate.Decimal.Reading

namespace CatalogGate.Text

/-- The number that digits write, with or without a plus sign. It has to fit into 64 bits. -/
def count? (cs : List Char) : Option Nat :=
  let digits := match cs with
    | '+' :: rest => rest
    | _ => cs
  if digits.isEmpty || !digits.all Char.isDigit then none
  else
    let n := Decimal.natOfDigits digits
    if n < UInt64.size then some n else none

end CatalogGate.Text
