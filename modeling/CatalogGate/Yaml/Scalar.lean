-- What a plain scalar means: null, a truth value, a number or just its text.
import CatalogGate.Decimal.Reading
import CatalogGate.Text.Hex
import CatalogGate.Yaml.Token

namespace CatalogGate.Yaml

inductive Scalar where
  | null
  | bool (value : Bool)
  /-- A whole number of 64 bits, signed or not. -/
  | int (value : Int)
  /-- A whole number of 128 bits that 64 do not hold. -/
  | wide (value : Int)
  | float (value : Float)
  | text (value : String)

namespace Scalar

def null? (s : String) : Bool := s == "null" || s == "Null" || s == "NULL" || s == "~"

def bool? (s : String) : Option Bool :=
  if s == "true" || s == "True" || s == "TRUE" then some true
  else if s == "false" || s == "False" || s == "FALSE" then some false
  else none

/-! ## Whole numbers -/

def digitValue? (radix : Nat) (c : Char) : Option Nat := do
  let d ← Text.hexValue? c
  if d < radix then some d else none

/-- The number that a non-empty run of digits writes in a radix. -/
def natOf? (radix : Nat) (cs : List Char) : Option Nat :=
  if cs.isEmpty then none
  else cs.foldl (fun n c => do return radix * (← n) + (← digitValue? radix c)) (some 0)

/-- The radix that a number announces, and its digits. -/
def radixDigits? : List Char → Option (Nat × List Char)
  | '0' :: 'x' :: rest => some (16, rest)
  | '0' :: 'o' :: rest => some (8, rest)
  | '0' :: 'b' :: rest => some (2, rest)
  | _ => none

def dropSign : List Char → List Char
  | '-' :: rest => rest
  | '+' :: rest => rest
  | cs => cs

/-- Digits after a zero, such as `007`, are no number. -/
def isPaddedNumber (cs : List Char) : Bool :=
  match dropSign cs with
  | '0' :: d :: rest => (d :: rest).all Char.isDigit
  | _ => false

/-- A number without a sign, in any radix. -/
def magnitude? (cs : List Char) : Option Nat :=
  match radixDigits? cs with
  | some (radix, digits) => natOf? radix digits
  | none => natOf? 10 cs

/-- The whole number that a plain scalar writes. -/
def int? (s : String) : Option Int :=
  let cs := s.toList
  if isPaddedNumber cs then none
  else
    match cs with
    | '-' :: rest => (magnitude? rest).map fun n => -(n : Int)
    | '+' :: rest => (magnitude? rest).map Int.ofNat
    | _ => (magnitude? cs).map Int.ofNat

/-- Whether a word of so many bits holds the number, with a sign or without one. -/
def fits (bits : Nat) (i : Int) : Bool :=
  -((Nat.pow 2 (bits - 1) : Nat) : Int) ≤ i && i < (Nat.pow 2 bits : Nat)

/-! ## Other numbers -/

/-- The floating-point number that a plain scalar writes. A number that is too large for one is none. -/
def float? (s : String) : Option Float :=
  if s == ".inf" || s == ".Inf" || s == ".INF" || s == "+.inf" || s == "+.Inf" || s == "+.INF" then
    some (1.0 / 0.0)
  else if s == "-.inf" || s == "-.Inf" || s == "-.INF" then some (-1.0 / 0.0)
  else if s == ".nan" || s == ".NaN" || s == ".NAN" then some (0.0 / 0.0)
  else
    match Decimal.Digits.read? s.toList with
    | some d =>
      let f := d.toFloat
      if f.isFinite then some f else none
    | none => none

/-- The number that a plain scalar writes, whole if possible. -/
def number? (s : String) : Option Scalar :=
  let whole := match int? s with
    | some i => if fits 64 i then some (int i) else if fits 128 i then some (wide i) else none
    | none => none
  match whole with
  | some n => some n
  | none => if isPaddedNumber s.toList then none else (float? s).map float

/-- The meaning of a plain scalar. -/
def ofPlain (s : String) : Scalar :=
  if s.isEmpty || null? s then null
  else
    match bool? s with
    | some b => bool b
    | none => (number? s).getD (text s)

/-! ## Tags that say what a scalar is -/

/-- The kinds of scalars that a tag can demand. -/
inductive Demand where
  | bool
  | int
  | float
  | null
deriving Repr, DecidableEq

def Demand.ofTag? (tag : String) : Option Demand :=
  if tag == "tag:yaml.org,2002:bool" then some bool
  else if tag == "tag:yaml.org,2002:int" then some int
  else if tag == "tag:yaml.org,2002:float" then some float
  else if tag == "tag:yaml.org,2002:null" then some null
  else none

def Demand.name : Demand → String
  | bool => "a boolean"
  | int => "an integer"
  | float => "a float"
  | null => "null"

/-- The scalar of a demanded kind, if the text writes one. -/
def Demand.read? (d : Demand) (s : String) : Option Scalar :=
  match d with
  | bool => (bool? s).map Scalar.bool
  | int =>
    match int? s with
    | some i => if fits 64 i then some (.int i) else if fits 128 i then some (.wide i) else none
    | none => none
  | float => (float? s).map Scalar.float
  | null => if null? s then some .null else none

/-- What a scalar means, or the kind that its tag demands in vain. A tag that is local has been taken off
before. -/
def ofTagged (tag : Option String) (s : String) (style : Style) : Except Demand Scalar :=
  match tag.bind Demand.ofTag? with
  | some d =>
    match d.read? s with
    | some v => .ok v
    | none => .error d
  | none => .ok (if tag.isNone && style = .plain then ofPlain s else text s)

end Scalar

end CatalogGate.Yaml
