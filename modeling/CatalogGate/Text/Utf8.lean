-- Decoding UTF-8, with the place of the first byte that cannot be decoded.
namespace CatalogGate.Text

/-- The characters from a byte offset on, or the offset at which no character stands. The characters
read before come newest first. -/
def decodeFrom (bytes : ByteArray) (offset : Nat) (read : List Char) : Except Nat (List Char) :=
  if offset < bytes.size then
    match bytes.utf8DecodeChar? offset with
    | some c => decodeFrom bytes (offset + c.utf8Size) (c :: read)
    | none => .error offset
  else .ok read.reverse
termination_by bytes.size - offset
decreasing_by have := c.utf8Size_pos; omega

/-- The characters that bytes encode, or the length of the longest part at the start that is whole. -/
def decode (bytes : ByteArray) : Except Nat (List Char) := decodeFrom bytes 0 []

/-! ## Faults -/

/-- What the second byte of a character may be, by the first one. -/
def isSecond (first second : UInt8) : Bool :=
  let low : UInt8 := if first = 0xE0 then 0xA0 else if first = 0xF0 then 0x90 else 0x80
  let high : UInt8 := if first = 0xED then 0x9F else if first = 0xF4 then 0x8F else 0xBF
  low ≤ second && second ≤ high

def isTrail (byte : UInt8) : Bool := 0x80 ≤ byte && byte ≤ 0xBF

/-- How many of the bytes at a place where no character stands belong together; none if the text ends there
before its character does. -/
def faultLength? : List UInt8 → Option Nat
  | [] => none
  | first :: rest =>
    let width := if first < 0xC2 then 1 else if first < 0xE0 then 2 else if first < 0xF0 then 3
      else if first < 0xF5 then 4 else 1
    if width = 1 then some 1
    else
      match rest with
      | [] => none
      | second :: rest =>
        if !isSecond first second then some 1
        else
          let trail := rest.takeWhile isTrail
          if rest.length ≤ trail.length ∧ trail.length + 2 < width then none else some (trail.length + 2)

/-- What is wrong with bytes that are not decoded, where they are decoded up to an offset. -/
def faultMessage (bytes : ByteArray) (offset : Nat) : String :=
  match faultLength? (bytes.toList.drop offset) with
  | some n => s!"invalid utf-8 sequence of {n} bytes from index {offset}"
  | none => s!"incomplete utf-8 byte sequence from index {offset}"

/-- The bytes before the `n`-th character. -/
def byteOffset (cs : List Char) (n : Nat) : Nat := (cs.take n).foldr (fun c size => c.utf8Size + size) 0

end CatalogGate.Text
