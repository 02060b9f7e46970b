-- Decimal digits that read back as the same binary floating-point number, found with significands of 64
-- bits. They are few, but not always the fewest or the nearest.
import CatalogGate.Decimal.Layout

namespace CatalogGate.Decimal

/-- The number `significand · 2 ^ exponent`. -/
structure Scaled where
  significand : Nat
  exponent : Int
deriving Repr, DecidableEq

namespace Scaled

/-- The same number with a significand of so many bits, if it has no more than that. -/
def widen (bits : Nat) (x : Scaled) : Scaled :=
  let shift := bits - (x.significand.log2 + 1)
  ⟨x.significand <<< shift, x.exponent - shift⟩

/-- The product of two numbers, of which the highest 64 bits are kept. -/
def mul (x y : Scaled) : Scaled :=
  ⟨(x.significand * y.significand + Nat.pow 2 63) / Nat.pow 2 64, x.exponent + y.exponent + 64⟩

/-- The number with 64 bits nearest to a power of ten. -/
def powerOfTen (k : Int) : Scaled :=
  let n := Nat.pow 10 k.natAbs
  if 0 ≤ k then
    let excess : Nat := n.log2 + 1 - 64
    if excess = 0 then widen 64 ⟨n, 0⟩
    else ⟨(n + Nat.pow 2 (excess - 1)) / Nat.pow 2 excess, (excess : Int)⟩
  else
    let shift : Nat := n.log2 + 64
    ⟨(Nat.pow 2 (shift + 1) / n + 1) / 2, -(shift : Int)⟩

/-- The power of ten that brings a number with a binary exponent close to one. Every eighth one is used. -/
def powerFor (exponent : Int) : Int :=
  (347 - (exponent + 61) * 30102999566398114 / 100000000000000000) / 8 * 8 - 340

end Scaled

/-- The numbers that may be written for a value, as multiples of a unit. -/
structure Window where
  /-- The greatest of them. -/
  high : Nat
  /-- How far the least of them is below the greatest. -/
  width : Nat
  /-- How far the value is below the greatest. -/
  gap : Nat

/-- Steps down from the greatest number on a grid while that comes closer to the value. -/
def Window.descend (w : Window) (step : Nat) : Nat → Nat → Nat → Nat
  | 0, _, point => point
  | fuel + 1, rest, point =>
    if rest < w.gap ∧ step ≤ w.width - rest
        ∧ (rest + step < w.gap ∨ rest + step - w.gap < w.gap - rest) then
      w.descend step fuel (rest + step) (point - 1)
    else point

/-- The widest grid of units with a point in the window. -/
def Window.wholePoint? (w : Window) (unit : Nat) : Nat → Option (Nat × Int)
  | 0 => none
  | k + 1 =>
    let step := Nat.pow 10 k * unit
    let rest := w.high % step
    if rest ≤ w.width then some (w.descend step 10 rest (w.high / step), k)
    else w.wholePoint? unit k

/-- The widest grid of parts of the unit with a point in the window. From nine digits on, the place of the
value in the window is no longer looked at. -/
def Window.partPoint (w : Window) (unit : Nat) : Nat → Nat → Nat × Int
  | 0, k => (w.high / unit, -(k : Int))
  | fuel + 1, k =>
    let scale := Nat.pow 10 k
    let finer : Window := ⟨w.high * scale, w.width * scale, if k < 9 then w.gap * scale else 0⟩
    let rest := finer.high % unit
    if rest < finer.width then (finer.descend unit 10 rest (finer.high / unit), -(k : Int))
    else w.partPoint unit fuel (k + 1)

/-- The digits of a positive number. -/
def quickDigits (b : Binary) : Nat × Int :=
  let above := Scaled.widen 64 ⟨2 * b.mantissa + 1, b.exponent - 1⟩
  let below : Scaled :=
    if b.mantissa = Nat.pow 2 52 then ⟨4 * b.mantissa - 1, b.exponent - 2⟩
    else ⟨2 * b.mantissa - 1, b.exponent - 1⟩
  let below : Scaled := ⟨below.significand <<< (below.exponent - above.exponent).toNat, above.exponent⟩
  let k := Scaled.powerFor above.exponent
  let power := Scaled.powerOfTen k
  let value := (Scaled.widen 64 ⟨b.mantissa, b.exponent⟩).mul power
  let high := (above.mul power).significand - 1
  let low := (below.mul power).significand + 1
  let window : Window := ⟨high, high - low, high - value.significand⟩
  let unit := Nat.pow 2 (-value.exponent).toNat
  let (point, shift) := (window.wholePoint? unit (digitCount (high / unit))).getD (window.partPoint unit 20 1)
  (point, shift - k)

/-- Digits for `f`, which is finite. -/
def quick (f : Float) : Digits :=
  let b := Binary.ofFloat f
  if b.mantissa = 0 then ⟨b.negative, 0, 0⟩
  else
    let (coefficient, exponent) := quickDigits b
    ⟨b.negative, coefficient, exponent⟩

end CatalogGate.Decimal
