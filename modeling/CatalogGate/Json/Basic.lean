-- JSON values with their members in written order. A whole number and a floating-point number are
-- different values even when they are equal as reals.
namespace CatalogGate

/-- A number as it was written: with or without a fraction or an exponent. -/
inductive Json.Number where
  | int (value : Int)
  | float (value : Float)

inductive Json where
  | null
  | bool (value : Bool)
  | number (value : Json.Number)
  | string (value : String)
  | array (items : List Json)
  | object (members : List (String × Json))

instance : Inhabited Json := ⟨.null⟩

namespace Json

/-! ## Members -/

/-- The value of the first member with this name. -/
def lookup (key : String) : List (String × Json) → Option Json
  | [] => none
  | (k, v) :: rest => if k = key then some v else lookup key rest

/-- A member that exists keeps its place and takes the new value; a new one goes to the end. -/
def put (key : String) (value : Json) : List (String × Json) → List (String × Json)
  | [] => [(key, value)]
  | (k, v) :: rest => if k = key then (k, value) :: rest else (k, v) :: put key value rest

/-- The member of an object; none for any other value. -/
def get? (key : String) : Json → Option Json
  | object members => lookup key members
  | _ => none

def ofNat (n : Nat) : Json := number (.int n)

/-! ## Numbers as reals -/

/-- The floating-point number nearest to a number. -/
def Number.toFloat : Number → Float
  | int i => if i < 0 then -(Float.ofNat i.natAbs) else Float.ofNat i.toNat
  | float f => f

/-! ## Equality -/

/-- A whole number equals only a whole number; floating-point numbers compare as reals, so that the
two zeros are one. -/
def Number.same : Number → Number → Bool
  | int a, int b => a == b
  | float a, float b => a == b
  | _, _ => false

mutual

/-- Equality of values. The order of members does not count. -/
def same : Json → Json → Bool
  | null, null => true
  | bool a, bool b => a == b
  | number a, number b => a.same b
  | string a, string b => a == b
  | array a, array b => sameItems a b
  | object a, object b => a.length == b.length && sameMembers a b
  | _, _ => false

def sameItems : List Json → List Json → Bool
  | [], [] => true
  | a :: as, b :: bs => same a b && sameItems as bs
  | _, _ => false

/-- Every member on the left stands, with an equal value, on the right. -/
def sameMembers : List (String × Json) → List (String × Json) → Bool
  | [], _ => true
  | (k, v) :: rest, other =>
    (match lookup k other with
      | some w => same v w
      | none => false) && sameMembers rest other

end

/-! ## Laws of members -/

theorem lookup_put_self (key : String) (value : Json) (members : List (String × Json)) :
    lookup key (put key value members) = some value := by
  induction members with
  | nil => simp [put, lookup]
  | cons m rest ih =>
    obtain ⟨k, v⟩ := m
    by_cases h : k = key <;> simp [put, lookup, h, ih]

theorem lookup_put_ne {key other : String} (value : Json) (members : List (String × Json))
    (h : key ≠ other) : lookup other (put key value members) = lookup other members := by
  induction members with
  | nil => simp [put, lookup, h]
  | cons m rest ih =>
    obtain ⟨k, v⟩ := m
    by_cases hk : k = key
    · subst hk; simp [put, lookup, h]
    · simp [put, lookup, hk, ih]

end Json

end CatalogGate
