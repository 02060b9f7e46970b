-- The index of the lines of a text: the offsets at which they start. A line is cut out of the text by the start
-- of the next one, and the line of an offset is found by halving the index.
import CatalogGate.Document.Position
import CatalogGate.Text.Blank
import CatalogGate.Text.Offset

namespace CatalogGate.Document

/-- Adds the start of a line behind each line feed. -/
def addStarts (starts : Array Nat) (offset : Nat) : List Char → Array Nat
  | [] => starts
  | c :: rest => addStarts (if c = '\n' then starts.push (offset + 1) else starts) (offset + c.utf8Size) rest

/-- Where the lines of a text start. -/
def startsOf (text : List Char) : Array Nat := addStarts #[0] 0 text

/-! ## Lines -/

/-- A line without the carriage returns at its end. -/
def trimLine (line : List Char) : List Char := Text.dropEndWhile (· = '\r') line

/-- Where a line ends: at the line feed in front of the next one, or with the text. -/
def lineEnd (starts : Array Nat) (text : List Char) (n : Nat) : Nat :=
  match starts[n + 1]? with
  | some next => next - 1
  | none => Text.size text

/-- The line with a number. -/
def lineIn? (starts : Array Nat) (text : List Char) (n : Nat) : Option (List Char) :=
  match starts[n]? with
  | some start => (Text.slice? start (lineEnd starts text n) text).map trimLine
  | none => none

/-! ## Places -/

/-- Halves a stretch of numbers until one of them is left: the last one that is not above `x`, if there is one. -/
def bisect (starts : Array Nat) (x base size : Nat) (nonempty : 0 < size) (bound : base + size ≤ starts.size) :
    Fin starts.size :=
  if h : 1 < size then
    if x < starts[base + size / 2] then bisect starts x base (size - size / 2) (by omega) (by omega)
    else bisect starts x (base + size / 2) (size - size / 2) (by omega) (by omega)
  else ⟨base, by omega⟩
termination_by size

/-- Where a number is among numbers that increase; as an error, where it belongs among them. -/
def search (starts : Array Nat) (x : Nat) : Except Nat Nat :=
  if h : 0 < starts.size then
    let i := bisect starts x 0 starts.size h (by omega)
    if starts[i] = x then .ok i else .error (if starts[i] < x then i + 1 else i)
  else .error 0

/-- The line on which an offset is. No line is in front of the first one. -/
def lineOf? (starts : Array Nat) (offset : Nat) : Option Nat :=
  match search starts offset with
  | .ok line => some line
  | .error 0 => none
  | .error (next + 1) => some next

/-- The place of an offset. One inside of a character is the place behind it, and one past the end is the end. -/
def positionIn? (starts : Array Nat) (text : List Char) (offset : Nat) : Option Position := do
  let offset := min offset (Text.size text)
  let line ← lineOf? starts offset
  let start ← starts[line]?
  let (_, rest) ← Text.splitAtOffset? [] start text
  return ⟨line, Text.countBefore offset 0 start rest⟩

end CatalogGate.Document
