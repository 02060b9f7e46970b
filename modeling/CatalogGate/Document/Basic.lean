-- Documents: the text that uploaded bytes encode, and the places in it.
import CatalogGate.Document.Index
import CatalogGate.Text.Utf8

namespace CatalogGate

/-- Why bytes are not a document. -/
inductive LoadError where
  /-- So many bytes at the start are UTF-8, and the next one is not. -/
  | notUtf8 (offset : Nat)
  /-- Places in so many bytes do not fit into 32 bits. -/
  | tooLarge (size : Nat)
deriving Repr, DecidableEq

def LoadError.message : LoadError → String
  | notUtf8 offset => s!"document is not valid UTF-8 (first invalid byte at offset {offset})"
  | tooLarge size => s!"document of {size} bytes is too large to address"

structure Document where
  name : String
  text : List Char
deriving Repr, DecidableEq

namespace Document

/-- The kind of text that every document holds. -/
def mediaType : String := "application/yaml"

def byteOrderMark : Char := '\ufeff'

/-- One byte order mark at the start does not belong to the text. -/
def dropMark : List Char → List Char
  | c :: rest => if c = byteOrderMark then rest else c :: rest
  | [] => []

/-- The document that bytes encode. -/
def load (name : String) (bytes : ByteArray) : Except LoadError Document :=
  if UInt32.size ≤ bytes.size then .error (.tooLarge bytes.size)
  else
    match Text.decode bytes with
    | .ok text => .ok ⟨name, dropMark text⟩
    | .error offset => .error (.notUtf8 offset)

/-! ## Lines -/

/-- The offsets at which the lines start. -/
def lineStarts (d : Document) : Array Nat := startsOf d.text

def lineCount (d : Document) : Nat := d.lineStarts.size

def line? (d : Document) (n : Nat) : Option (List Char) := lineIn? d.lineStarts d.text n

def lines (d : Document) : List (List Char) :=
  let starts := d.lineStarts
  (List.range starts.size).filterMap (lineIn? starts d.text)

/-! ## Places -/

/-- The place of a byte offset. There is one for every offset. -/
def positionAt (d : Document) (offset : Nat) : Position := (positionIn? d.lineStarts d.text offset).getD .zero

/-- The place behind the last character of a line; of a line that does not exist its start. -/
def endOfLine (d : Document) (n : Nat) : Position := ⟨n, ((d.line? n).getD []).length⟩

end Document

end CatalogGate
