-- Offsets in texts. An offset is the number of the bytes in front of a place.
namespace CatalogGate.Text

/-- The number of bytes that encode a text. -/
def size (text : List Char) : Nat := (String.ofList text).utf8ByteSize

/-- What stands before an offset and what stands behind it. Nothing does if the offset is inside of a character
or past the end. The characters read before come last first. -/
def splitAtOffset? (read : List Char) : Nat → List Char → Option (List Char × List Char)
  | 0, text => some (read.reverse, text)
  | _ + 1, [] => none
  | n + 1, c :: rest =>
    if c.utf8Size ≤ n + 1 then splitAtOffset? (c :: read) (n + 1 - c.utf8Size) rest else none

/-- What stands between two offsets. -/
def slice? (start stop : Nat) (text : List Char) : Option (List Char) :=
  if stop < start then none
  else
    match splitAtOffset? [] start text with
    | some (_, rest) => (splitAtOffset? [] (stop - start) rest).map Prod.fst
    | none => none

/-- How many characters start before an offset, where the first one starts at `index`. -/
def countBefore (offset count index : Nat) : List Char → Nat
  | [] => count
  | c :: rest => if index < offset then countBefore offset (count + 1) (index + c.utf8Size) rest else count

end CatalogGate.Text
