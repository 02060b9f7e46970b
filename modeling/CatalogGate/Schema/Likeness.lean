-- When values are alike for schemas, and when a number is a multiple of another one.
import CatalogGate.Decimal.Shortest
import CatalogGate.Json.Order

namespace CatalogGate.Schema

/-! ## Numbers -/

/-- Whole numbers are alike if they are equal, all others if their nearest floating-point numbers are. -/
def numbersAlike (a b : Json.Number) : Bool :=
  match a, b with
  | .int a, .int b => a == b
  | a, b => a.toFloat == b.toFloat

/-- As before, and the nearest floating-point numbers also agree in the sign of zero. -/
def numbersIdentical (a b : Json.Number) : Bool := numbersAlike a b && a.toFloat.toBits == b.toFloat.toBits

/-- The distance between one and the next greater floating-point number. -/
def epsilon : Float := 2.220446049250313e-16

/-- Whether floating-point numbers are so near to each other that one may pass for the other. -/
def isNear (a b : Json.Number) : Bool := (a.toFloat - b.toFloat).abs < epsilon

/-! ## Values -/

mutual

/-- Whether values are alike by a test of numbers. The order of members counts. -/
def alikeBy (test : Json.Number → Json.Number → Bool) : Json → Json → Bool
  | .null, .null => true
  | .bool a, .bool b => a == b
  | .number a, .number b => test a b
  | .string a, .string b => a == b
  | .array a, .array b => itemsAlikeBy test a b
  | .object a, .object b => membersAlikeBy test a b
  | _, _ => false

def itemsAlikeBy (test : Json.Number → Json.Number → Bool) : List Json → List Json → Bool
  | [], [] => true
  | a :: as, b :: bs => alikeBy test a b && itemsAlikeBy test as bs
  | _, _ => false

def membersAlikeBy (test : Json.Number → Json.Number → Bool) :
    List (String × Json) → List (String × Json) → Bool
  | [], [] => true
  | (k, v) :: rest, (l, w) :: more => k == l && alikeBy test v w && membersAlikeBy test rest more
  | _, _ => false

end

def alike (a b : Json) : Bool := alikeBy numbersAlike a b

/-- Whether a value is a constant. Between numbers there may be a small distance. -/
def isConstant (expected v : Json) : Bool :=
  match expected, v with
  | .number a, .number b => isNear a b
  | _, _ => alike expected v

/-- Whether no two of several values pass a test. -/
def noneAlike (test : Json → Json → Bool) : List Json → Bool
  | [] => true
  | v :: rest => !rest.any (test v) && noneAlike test rest

/-- Whether no value stands twice in a list. In long lists the two zeros are not alike. -/
def isUnique (items : List Json) : Bool :=
  if items.length ≤ 15 then noneAlike alike items else noneAlike (alikeBy numbersIdentical) items

/-! ## Multiples -/

def isWholeFloat (x : Float) : Bool := x.floor == x

/-- Without what stands behind the point. -/
def truncated (x : Float) : Float := if x < 0.0 then x.ceil else x.floor

/-- The whole number that a floating-point number is. -/
def wholeOf (x : Float) : Int :=
  let d := (Json.Number.float x).dyadic
  d.numerator / (Nat.pow 2 d.halvings : Nat)

/-- Whether the quotient of two decimal numbers is whole. -/
def dividesDecimal (divisor x : Decimal.Digits) : Bool :=
  let shift := x.exponent - divisor.exponent
  (x.coefficient * Nat.pow 10 shift.toNat) % (divisor.coefficient * Nat.pow 10 (-shift).toNat) == 0

/-- Whether a number is a multiple of another one. Nothing is a multiple of zero. A divisor that is not whole may leave a small rest, and it
may leave any rest below zero. Where the quotient is too large, the shortest decimal numbers decide. -/
def isMultiple (n : Json.Number) (divisor : Float) : Bool :=
  let x := n.toFloat
  if isWholeFloat divisor then !(divisor == 0.0) && isWholeFloat x && wholeOf x % wholeOf divisor == 0
  else
    let quotient := x / divisor
    if quotient.isFinite then quotient - truncated quotient < epsilon
    else dividesDecimal (Decimal.shortest divisor) (Decimal.shortest x)

end CatalogGate.Schema
