-- The fewest decimal digits that read back as the same binary floating-point number, found by exact
-- arithmetic on natural numbers. All else that prints a number starts from here.
namespace CatalogGate.Decimal

/-- A decimal number: `coefficient · 10 ^ exponent`, negative when `negative` is set. -/
structure Digits where
  negative : Bool
  coefficient : Nat
  exponent : Int
deriving Repr, DecidableEq, Inhabited

/-- A finite binary number: `mantissa · 2 ^ exponent`, negative when `negative` is set. -/
structure Binary where
  negative : Bool
  mantissa : Nat
  exponent : Int
deriving Repr, DecidableEq

/-! ## Taking a number apart -/

def Binary.ofFloat (f : Float) : Binary :=
  let bits : Nat := f.toBits.toNat
  let negative := bits / Nat.pow 2 63 == 1
  let fraction : Nat := bits % Nat.pow 2 52
  let power : Nat := bits / Nat.pow 2 52 % Nat.pow 2 11
  if power = 0 then ⟨negative, fraction, -1074⟩
  else ⟨negative, Nat.pow 2 52 + fraction, (power : Int) - 1075⟩

/-- The reals that round to a number, each a numerator over the common `denominator`. The ends belong
to the interval when `closed` is set. -/
structure Interval where
  low : Nat
  value : Nat
  high : Nat
  denominator : Nat
  closed : Bool

/-- Half way to either neighbour. Below a power of two the next number down is only half as far away. -/
def Binary.interval (b : Binary) : Interval :=
  let gap := if b.mantissa = Nat.pow 2 52 ∧ b.exponent ≠ -1074 then 1 else 2
  let scale := b.exponent - 2
  let up := Nat.pow 2 scale.toNat
  { low := (4 * b.mantissa - gap) * up
    value := 4 * b.mantissa * up
    high := (4 * b.mantissa + 2) * up
    denominator := Nat.pow 2 (-scale).toNat
    closed := b.mantissa % 2 = 0 }

/-! ## The grids of `n` digits -/

/-- The number of decimal digits of a natural number, none for zero. -/
def digitCount (n : Nat) : Nat := if n = 0 then 0 else (Nat.toDigits 10 n).length

/-- How often a fraction below one has to be multiplied by ten to reach one. -/
def leadingZeros : Nat → Nat → Nat → Nat
  | 0, _, _ => 0
  | fuel + 1, numerator, denominator =>
    if denominator ≤ numerator then 0 else leadingZeros fuel (10 * numerator) denominator + 1

/-- The `k` with `10 ^ (k - 1) ≤ value < 10 ^ k`. -/
def Interval.magnitude (i : Interval) : Int :=
  if i.denominator ≤ i.value then digitCount (i.value / i.denominator)
  else 1 - (leadingZeros 400 i.value i.denominator : Int)

/-- Whether `point · 10 ^ exponent` reads back, and how far it then is from the value, on a scale that
is the same for all points of one grid. -/
def Interval.distance (i : Interval) (exponent : Int) (point : Nat) : Option Nat :=
  let shrink := Nat.pow 10 (-exponent).toNat
  let x := point * Nat.pow 10 exponent.toNat * i.denominator
  let low := i.low * shrink
  let high := i.high * shrink
  let value := i.value * shrink
  let inside := if i.closed then low ≤ x ∧ x ≤ high else low < x ∧ x < high
  if inside then some (if x ≤ value then value - x else x - value) else none

/-- The point of the grid with unit `10 ^ exponent` that is nearest to the value and reads back. Of two
that are equally near the even one is taken. -/
def Interval.nearest (i : Interval) (exponent : Int) : Option Nat :=
  let below := i.value * Nat.pow 10 (-exponent).toNat / (i.denominator * Nat.pow 10 exponent.toNat)
  match i.distance exponent below, i.distance exponent (below + 1) with
  | some near, some far =>
    if near < far then some below
    else if far < near then some (below + 1)
    else some (if below % 2 = 0 then below else below + 1)
  | some _, none => some below
  | none, some _ => some (below + 1)
  | none, none => none

/-- The first grid, from `n` digits on, with a point that reads back. -/
def Interval.search (i : Interval) (k : Int) : Nat → Nat → Option (Nat × Int)
  | 0, _ => none
  | fuel + 1, n =>
    match i.nearest (k - n) with
    | some point => some (point, k - n)
    | none => i.search k fuel (n + 1)

/-- The coefficient without its trailing zeros. -/
def Digits.trim : Nat → Digits → Digits
  | 0, d => d
  | fuel + 1, d =>
    if d.coefficient ≠ 0 ∧ d.coefficient % 10 = 0 then
      trim fuel { d with coefficient := d.coefficient / 10, exponent := d.exponent + 1 }
    else d

/-- The fewest digits that read back as `f`, which is finite; of those the nearest to `f`. -/
def shortest (f : Float) : Digits :=
  let b := Binary.ofFloat f
  if b.mantissa = 0 then ⟨b.negative, 0, 0⟩
  else
    let i := b.interval
    match i.search i.magnitude 18 1 with
    | some (coefficient, exponent) => Digits.trim 20 ⟨b.negative, coefficient, exponent⟩
    | none => ⟨b.negative, 0, 0⟩

end CatalogGate.Decimal
