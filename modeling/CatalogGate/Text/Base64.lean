-- Base64: bytes written with 64 characters, three bytes as four characters.
namespace CatalogGate.Text.Base64

def value? (c : Char) : Option Nat :=
  if c.isUpper then some (c.toNat - 'A'.toNat)
  else if c.isLower then some (c.toNat - 'a'.toNat + 26)
  else if c.isDigit then some (c.toNat - '0'.toNat + 52)
  else if c = '+' then some 62
  else if c = '/' then some 63
  else none

/-- The number that characters write, six bits each. -/
def number? (cs : List Char) : Option Nat := cs.foldl (fun n c => do return 64 * (← n) + (← value? c)) (some 0)

/-- The bytes that a text stands for. The last four characters may write two bytes or one; then equals signs
take the places that are left, and the bits that belong to no byte are zero. -/
def decode? : List Char → Option (List UInt8)
  | [] => some []
  | [a, b, '=', '='] => do
    let n ← number? [a, b]
    if n % 16 = 0 then some [(n / 16).toUInt8] else none
  | [a, b, c, '='] => do
    let n ← number? [a, b, c]
    if n % 4 = 0 then some [(n / 1024).toUInt8, (n / 4).toUInt8] else none
  | a :: b :: c :: d :: rest => do
    let n ← number? [a, b, c, d]
    return (n / 65536).toUInt8 :: (n / 256).toUInt8 :: n.toUInt8 :: (← decode? rest)
  | _ => none

end CatalogGate.Text.Base64
