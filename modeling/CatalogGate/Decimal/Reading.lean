-- From decimal digits to the nearest floating-point number.
import CatalogGate.Decimal.Shortest

namespace CatalogGate.Decimal

/-- The number that decimal digits write. -/
def natOfDigits (cs : List Char) : Nat := cs.foldl (fun n c => 10 * n + (c.toNat - '0'.toNat)) 0

theorem natOfDigits_toString (n : Nat) : natOfDigits (toString n).toList = n := by
  rw [Nat.toString_eq_repr, Nat.toList_repr, natOfDigits, ← Nat.ofDigitChars_eq_foldl,
    Nat.ofDigitChars_toDigits (by decide) (by decide)]

theorem isDigit_of_mem_toString {n : Nat} {c : Char} (h : c ∈ (toString n).toList) : c.isDigit = true := by
  rw [Nat.toString_eq_repr, Nat.toList_repr] at h
  exact Nat.isDigit_of_mem_toDigits (by decide) (by decide) h

/-- The floating-point number nearest to a decimal one. Exponents far outside of the range give infinity
or zero without any arithmetic on them. -/
def Digits.toFloat (d : Digits) : Float :=
  let point := (digitCount d.coefficient : Int) + d.exponent
  let size :=
    if d.coefficient = 0 then 0.0
    else if 400 < point then 1.0 / 0.0
    else if point < -400 then 0.0
    else Float.ofScientific d.coefficient (d.exponent < 0) d.exponent.natAbs
  if d.negative then -size else size

/-- The digits of a text such as `-1.5e3`. A sign, a point and an exponent may each be absent, but not
all digits. -/
def Digits.read? (cs : List Char) : Option Digits :=
  let (negative, cs) := match cs with
    | '-' :: t => (true, t)
    | '+' :: t => (false, t)
    | t => (false, t)
  let whole := cs.takeWhile Char.isDigit
  let rest := cs.dropWhile Char.isDigit
  let (fraction, rest) := match rest with
    | '.' :: t => (t.takeWhile Char.isDigit, t.dropWhile Char.isDigit)
    | t => ([], t)
  if whole.isEmpty && fraction.isEmpty then none
  else
    let digits (exponent : Int) : Digits :=
      ⟨negative, natOfDigits (whole ++ fraction), exponent - fraction.length⟩
    match rest with
    | [] => some (digits 0)
    | c :: t =>
      if c = 'e' ∨ c = 'E' then
        let (down, t) := match t with
          | '-' :: u => (true, u)
          | '+' :: u => (false, u)
          | u => (false, u)
        if t.isEmpty ∨ ¬ t.all Char.isDigit then none
        else
          let n : Int := natOfDigits t
          some (digits (if down then -n else n))
      else none

end CatalogGate.Decimal
