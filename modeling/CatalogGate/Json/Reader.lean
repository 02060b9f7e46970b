-- Reading JSON text. Integers that fit 64 bits, signed or not, stay whole; minus zero and every other
-- number is the nearest floating-point number. A name that comes again replaces the earlier value.
import CatalogGate.Decimal.Reading
import CatalogGate.Json.Basic
import CatalogGate.Text.Hex

namespace CatalogGate.Json

def isBlank (c : Char) : Bool := c == ' ' || c == '\n' || c == '\r' || c == '\t'

def skipBlanks (cs : List Char) : List Char := cs.dropWhile isBlank

def hex4? (a b c d : Char) : Option Nat := do
  return (← Text.hexValue? a) * 4096 + (← Text.hexValue? b) * 256 + (← Text.hexValue? c) * 16 + (← Text.hexValue? d)

/-! ## Strings -/

def unescape? : Char → Option Char
  | '"' => some '"'
  | '\\' => some '\\'
  | '/' => some '/'
  | 'b' => some '\x08'
  | 'f' => some '\x0c'
  | 'n' => some '\n'
  | 'r' => some '\r'
  | 't' => some '\t'
  | _ => none

/-- The rest of a string after its opening quote, with what was read so far newest first. Two escapes make one
character if the first is the upper half of it. -/
def readString? (read : List Char) : List Char → Option (String × List Char)
  | '"' :: rest => some (String.ofList read.reverse, rest)
  | '\\' :: 'u' :: a :: b :: c :: d :: rest => do
    let code ← hex4? a b c d
    if code < 0xD800 ∨ 0xE000 ≤ code then readString? (Char.ofNat code :: read) rest
    else if 0xDC00 ≤ code then none
    else
      match rest with
      | '\\' :: 'u' :: e :: f :: g :: h :: rest => do
        let low ← hex4? e f g h
        if 0xDC00 ≤ low ∧ low < 0xE000 then
          readString? (Char.ofNat (0x10000 + (code - 0xD800) * 0x400 + (low - 0xDC00)) :: read) rest
        else none
      | _ => none
  | '\\' :: c :: rest => do readString? ((← unescape? c) :: read) rest
  | c :: rest => if c.toNat < 0x20 then none else readString? (c :: read) rest
  | [] => none

/-! ## Numbers -/

def readExponent? : List Char → Option (Option Int × List Char)
  | [] => some (none, [])
  | c :: rest =>
    if c = 'e' ∨ c = 'E' then
      let (negative, tail) := match rest with
        | '-' :: t => (true, t)
        | '+' :: t => (false, t)
        | t => (false, t)
      let digits := tail.takeWhile Char.isDigit
      if digits.isEmpty then none
      else
        let n : Int := Decimal.natOfDigits digits
        some (some (if negative then -n else n), tail.dropWhile Char.isDigit)
    else some (none, c :: rest)

def Number.ofDecimal (negative : Bool) (whole fraction : List Char) (exponent : Option Int) : Number :=
  let n := Decimal.natOfDigits whole
  if fraction.isEmpty ∧ exponent = none then
    if negative then
      if n = 0 ∨ UInt64.size / 2 < n then float (Decimal.Digits.toFloat ⟨true, n, 0⟩) else int (-(n : Int))
    else if n < UInt64.size then int n
    else float (Decimal.Digits.toFloat ⟨false, n, 0⟩)
  else
    float (Decimal.Digits.toFloat
      ⟨negative, Decimal.natOfDigits (whole ++ fraction), exponent.getD 0 - fraction.length⟩)

def readNumber? (cs : List Char) : Option (Number × List Char) :=
  let (negative, cs) := match cs with
    | '-' :: t => (true, t)
    | t => (false, t)
  let whole := cs.takeWhile Char.isDigit
  let rest := cs.dropWhile Char.isDigit
  if whole.isEmpty ∨ (1 < whole.length ∧ whole.head? = some '0') then none
  else
    match rest with
    | '.' :: tail =>
      let fraction := tail.takeWhile Char.isDigit
      if fraction.isEmpty then none
      else (readExponent? (tail.dropWhile Char.isDigit)).map fun (e, rest) =>
        (Number.ofDecimal negative whole fraction e, rest)
    | rest => (readExponent? rest).map fun (e, rest) => (Number.ofDecimal negative whole [] e, rest)

/-! ## Values -/

mutual

/-- One value at the start of the text. Every call takes at least one character, which bounds the fuel. -/
def readValue? : Nat → List Char → Option (Json × List Char)
  | 0, _ => none
  | fuel + 1, cs =>
    match skipBlanks cs with
    | 'n' :: 'u' :: 'l' :: 'l' :: rest => some (null, rest)
    | 't' :: 'r' :: 'u' :: 'e' :: rest => some (bool true, rest)
    | 'f' :: 'a' :: 'l' :: 's' :: 'e' :: rest => some (bool false, rest)
    | '"' :: rest => (readString? [] rest).map fun (s, rest) => (string s, rest)
    | '[' :: rest =>
      match skipBlanks rest with
      | ']' :: rest => some (array [], rest)
      | _ => (readItems? fuel [] rest).map fun (items, rest) => (array items, rest)
    | '{' :: rest =>
      match skipBlanks rest with
      | '}' :: rest => some (object [], rest)
      | _ => (readMembers? fuel [] rest).map fun (members, rest) => (object members, rest)
    | cs => (readNumber? cs).map fun (n, rest) => (number n, rest)

def readItems? : Nat → List Json → List Char → Option (List Json × List Char)
  | 0, _, _ => none
  | fuel + 1, items, cs => do
    let (v, rest) ← readValue? fuel cs
    match skipBlanks rest with
    | ',' :: rest => readItems? fuel (v :: items) rest
    | ']' :: rest => some ((v :: items).reverse, rest)
    | _ => none

def readMembers? : Nat → List (String × Json) → List Char → Option (List (String × Json) × List Char)
  | 0, _, _ => none
  | fuel + 1, members, cs =>
    match skipBlanks cs with
    | '"' :: rest => do
      let (key, rest) ← readString? [] rest
      match skipBlanks rest with
      | ':' :: rest =>
        let (v, rest) ← readValue? fuel rest
        match skipBlanks rest with
        | ',' :: rest => readMembers? fuel (put key v members) rest
        | '}' :: rest => some (put key v members, rest)
        | _ => none
      | _ => none
    | _ => none

end

/-- The value that a whole text holds. -/
def read? (text : String) : Option Json :=
  match readValue? (2 * text.length + 2) text.toList with
  | some (value, rest) => if (skipBlanks rest).isEmpty then some value else none
  | none => none

end CatalogGate.Json
