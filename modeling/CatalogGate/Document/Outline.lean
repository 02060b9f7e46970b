-- Where the values of a document stand in its text. Every key and every dash is an entry at its column,
-- and nesting follows the columns. What stands in brackets or over several lines is not looked into.
import CatalogGate.Document.Basic
import CatalogGate.Document.Line
import CatalogGate.Json.Path

namespace CatalogGate

/-- A key or a dash, and where the line it is on ends. -/
structure Outline.Entry where
  mark : Document.Mark
  line : Nat
  column : Nat
  lineEnd : Nat
deriving Repr, DecidableEq

/-- The entries of a document in the order of its text. -/
structure Outline where
  entries : Array Outline.Entry

namespace Outline

/-! ## Reading the lines -/

/-- The entries of a line and the column of the block scalar that is open behind it. -/
def readLine (block : Option Nat) (line : Nat) (text : List Char) : List Entry × Option Nat :=
  let content := text.dropWhile (· = ' ')
  let indent := text.length - content.length
  let inside := match block with
    | some owner => content.all Text.isSpace || owner < indent
    | none => false
  if inside then ([], block)
  else if Document.isSkipped content then
    -- A blank line never ends a block scalar, and it was left above while one is open.
    ([], none)
  else
    let (marks, block) := Document.marksFrom (content.length + 1) indent content
    let lineEnd := (Text.trimEnd text).length
    (marks.map fun (mark, column) => ⟨mark, line, column, lineEnd⟩, block)

/-- The entries of the lines from a number on. -/
def readLines (block : Option Nat) (line : Nat) : List (List Char) → List Entry
  | [] => []
  | text :: rest =>
    let (entries, block) := readLine block line text
    entries ++ readLines block (line + 1) rest

def ofDocument (d : Document) : Outline := ⟨(readLines none 0 d.lines).toArray⟩

/-! ## Nesting -/

/-- Whether an entry that comes later is nested under another one. The items of a key's sequence may
stand at the column of the key. -/
def isNested (owner e : Entry) : Bool :=
  owner.column < e.column
    || (owner.mark != .item && e.column == owner.column && e.mark == .item)

/-- The first entry from `j` on that is not nested under `owner`. -/
def endFrom (o : Outline) (owner : Entry) : Nat → Nat → Nat
  | 0, j => j
  | fuel + 1, j =>
    match o.entries[j]? with
    | some e => if isNested owner e then endFrom o owner fuel (j + 1) else j
    | none => j

/-- One past the last entry nested under entry `i`. -/
def subtreeEnd (o : Outline) (i : Nat) : Nat :=
  match o.entries[i]? with
  | some owner => endFrom o owner (o.entries.size - (i + 1)) (i + 1)
  | none => i + 1

/-- The least column of the entries from `low` to before `high`. -/
def leastColumn (o : Outline) (low high : Nat) : Option Nat :=
  ((o.entries.extract low high).map Entry.column).foldl
    (fun least c => some (match least with | some m => min m c | none => c)) none

/-- The entries at a column, each found behind the subtree of the one before. -/
def childrenFrom (o : Outline) (column high : Nat) : Nat → Nat → List Nat
  | 0, _ => []
  | fuel + 1, i =>
    if i < high then
      match o.entries[i]? with
      | some e =>
        if e.column = column then i :: childrenFrom o column high fuel (max (o.subtreeEnd i) (i + 1))
        else childrenFrom o column high fuel (i + 1)
      | none => []
    else []

/-- The entries directly below, among those from `low` to before `high`. -/
def children (o : Outline) (low high : Nat) : List Nat :=
  match o.leastColumn low high with
  | some column => childrenFrom o column high (high - low) low
  | none => []

/-! ## Finding a path -/

/-- The child that a step leads to. -/
def child? (o : Outline) (low high : Nat) (step : Json.Step) : Option Nat :=
  let children := o.children low high
  let mark? (i : Nat) : Option Document.Mark := o.entries[i]?.map Entry.mark
  match step with
  | .key name => children.find? fun i => mark? i == some (.key name.toList)
  | .index position => (children.filter fun i => mark? i == some .item)[position]?

/-- The entries that a path leads through, as far as it can be followed. -/
def descend (o : Outline) (low high : Nat) : Json.Path → List Nat
  | [] => []
  | step :: rest =>
    match o.child? low high step with
    | some i => i :: descend o (i + 1) (o.subtreeEnd i) rest
    | none => []

/-- From the mark to the end of its line. -/
def Entry.range (e : Entry) : Range := ⟨⟨e.line, e.column⟩, ⟨e.line, max e.lineEnd e.column⟩⟩

/-- The range of the deepest value on a path that has an entry; the start of the document if none has. -/
def rangeOf (o : Outline) (path : Json.Path) : Range :=
  match (o.descend 0 o.entries.size path).getLast?.bind fun i => o.entries[i]? with
  | some e => e.range
  | none => .zero

end Outline

end CatalogGate
