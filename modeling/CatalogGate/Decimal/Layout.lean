-- How a decimal number is written: where positional notation ends, and what an exponent looks like.
import CatalogGate.Decimal.Shortest

namespace CatalogGate.Decimal

/-- A written form. The point of a number stands after `k` digits; from `least` to `most` the number is
written out, else with an exponent. -/
structure Layout where
  least : Int
  most : Int
  /-- Written out, a whole number still gets a point and a zero. -/
  pointZero : Bool
  /-- An exponent that is not negative gets a plus sign. -/
  plus : Bool

/-- Every number written out in full. -/
def Layout.plain : Layout := ⟨-2000, 2000, false, false⟩

def Layout.write (l : Layout) (d : Digits) : String :=
  let sign := if d.negative then "-" else ""
  let digits := Nat.toDigits 10 d.coefficient
  if d.coefficient = 0 then sign ++ (if l.pointZero then "0.0" else "0")
  else
    let point := (digits.length : Int) + d.exponent
    if l.least ≤ point ∧ point ≤ l.most then
      if 0 ≤ d.exponent then
        sign ++ String.ofList (digits ++ List.replicate d.exponent.toNat '0')
          ++ (if l.pointZero then ".0" else "")
      else if 0 < point then
        sign ++ String.ofList (digits.take point.toNat) ++ "." ++ String.ofList (digits.drop point.toNat)
      else
        sign ++ "0." ++ String.ofList (List.replicate (-point).toNat '0' ++ digits)
    else
      let exponent := point - 1
      let mark := if exponent < 0 then "e-" else if l.plus then "e+" else "e"
      let fraction := digits.drop 1
      sign ++ String.ofList (digits.take 1)
        ++ (if fraction.isEmpty then "" else "." ++ String.ofList fraction)
        ++ mark ++ toString exponent.natAbs

/-- The text of a finite number in a layout. -/
def Layout.float (l : Layout) (f : Float) : String := l.write (shortest f)

end CatalogGate.Decimal
