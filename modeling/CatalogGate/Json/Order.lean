-- Numbers compared as reals, whole or not, without rounding.
import CatalogGate.Decimal.Shortest
import CatalogGate.Json.Basic

namespace CatalogGate.Json

/-- A number as `numerator / 2 ^ halvings`. -/
structure Dyadic where
  numerator : Int
  halvings : Nat
deriving Repr, DecidableEq

/-- The numerator over `2 ^ (d.halvings + more)`. -/
def Dyadic.over (more : Nat) (d : Dyadic) : Int := d.numerator * (Nat.pow 2 more : Nat)

def Dyadic.less (a b : Dyadic) : Bool := a.over b.halvings < b.over a.halvings

def Dyadic.equal (a b : Dyadic) : Bool := a.over b.halvings == b.over a.halvings

/-- The real that a finite number is. -/
def Number.dyadic : Number → Dyadic
  | int i => ⟨i, 0⟩
  | float f =>
    let b := Decimal.Binary.ofFloat f
    let size : Nat := b.mantissa * Nat.pow 2 b.exponent.toNat
    ⟨if b.negative then -(size : Int) else size, (-b.exponent).toNat⟩

def Number.less (a b : Number) : Bool :=
  match a, b with
  | int a, int b => a < b
  | float a, float b => a < b
  | a, b => a.dyadic.less b.dyadic

def Number.equal (a b : Number) : Bool :=
  match a, b with
  | int a, int b => a == b
  | float a, float b => a == b
  | a, b => a.dyadic.equal b.dyadic

/-- Whether a number is whole, however it is written. -/
def Number.isWhole : Number → Bool
  | int _ => true
  | float f => f.floor == f

mutual

/-- Equality of values in which numbers are equal when they are equal as reals. -/
def equal : Json → Json → Bool
  | null, null => true
  | bool a, bool b => a == b
  | number a, number b => a.equal b
  | string a, string b => a == b
  | array a, array b => equalItems a b
  | object a, object b => a.length == b.length && equalMembers a b
  | _, _ => false

def equalItems : List Json → List Json → Bool
  | [], [] => true
  | a :: as, b :: bs => equal a b && equalItems as bs
  | _, _ => false

def equalMembers : List (String × Json) → List (String × Json) → Bool
  | [], _ => true
  | (k, v) :: rest, other =>
    (match lookup k other with
      | some w => equal v w
      | none => false) && equalMembers rest other

end

end CatalogGate.Json
