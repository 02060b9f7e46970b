-- A value as YAML text in block style. It names an object's member when the key is a collection.
import CatalogGate.Yaml.Node.Spelling

namespace CatalogGate.Yaml.Node

/-! ## Written parts -/

/-- A part of a text: what goes on the line on which it starts, and the lines below, with their blanks. -/
structure Written where
  head : String
  lines : List String

namespace Written

def line (text : String) : Written := ⟨text, []⟩

/-- Behind a mark. -/
def behind (mark : String) (w : Written) : Written := ⟨if w.head.isEmpty then mark else mark ++ " " ++ w.head, w.lines⟩

/-- Parts at a column, each on a line of its own. The first one may stay on the line that there is. -/
def stack (stays : Bool) (column : Nat) (parts : List Written) : Written :=
  let blanks := String.ofList (List.replicate column ' ')
  let linesOf := fun (w : Written) => (blanks ++ w.head) :: w.lines
  match stays, parts with
  | true, first :: rest => ⟨first.head, first.lines ++ rest.flatMap linesOf⟩
  | _, parts => ⟨"", parts.flatMap linesOf⟩

end Written

/-- Where a value is written. -/
structure Place where
  /-- The column of its lines. -/
  column : Nat
  inMapping : Bool
  /-- Nothing but marks of collections stands before it on its line. -/
  fresh : Bool

/-- The lines of a sequence under a key are not indented. -/
def Place.itemColumn (p : Place) : Nat := if p.inMapping && !p.fresh then p.column - 2 else p.column

/-! ## Scalars -/

def stringWritten (column : Nat) (s : String) : Written :=
  let blanks := List.replicate column ' '
  match Spelling.ofText s with
  | .plain => .line s
  | .singleQuoted => .line (String.ofList (Spelling.singleQuote blanks s.toList))
  | .doubleQuoted => .line (String.ofList (Spelling.quote s.toList))
  | .literal => ⟨String.ofList (Spelling.literalHead s.toList), Spelling.literalLines blanks s.toList⟩

/-- The size of what is written on one line, if a value is. -/
def lineSize? : Node → Option Nat
  | null => some 4
  | bool b => some (toString b).utf8ByteSize
  | int i => some (toString i).utf8ByteSize
  | float f => some (floatText f).utf8ByteSize
  | string s => if s.toList.any Spelling.endsLine then none else some s.utf8ByteSize
  | sequence items => if items.isEmpty then some 0 else none
  | mapping entries => if entries.isEmpty then some 0 else none
  | tagged tag value => (lineSize? value).map (· + Spelling.tagSize tag)

/-- Whether a key needs no question mark. -/
def isShortKey (key : Node) : Bool := key.lineSize?.any (· ≤ 128)

/-! ## Collections -/

mutual

def written (p : Place) : Node → Written
  | null => .line "null"
  | bool b => .line (toString b)
  | int i => .line (toString i)
  | float f => .line (floatText f)
  | string s => stringWritten p.column s
  | sequence [] => .line "[]"
  | sequence (v :: rest) =>
    .stack p.fresh p.itemColumn ((written ⟨p.itemColumn + 2, false, true⟩ v).behind "-" :: writtenItems p.itemColumn rest)
  | mapping [] => .line "\x7b\x7d"
  | mapping ((k, v) :: rest) =>
    let inner (fresh : Bool) : Place := ⟨p.column + 2, true, fresh⟩
    let first :=
      if isShortKey k then [(written (inner false) v).behind ((written (inner true) k).head ++ ":")]
      else [(written (inner true) k).behind "?", (written (inner true) v).behind ":"]
    .stack p.fresh p.column (first ++ writtenEntries p.column rest)
  | tagged tag value => (written { p with fresh := false } value).behind (Spelling.tagText tag)

def writtenItems (column : Nat) : List Node → List Written
  | [] => []
  | v :: rest => (written ⟨column + 2, false, true⟩ v).behind "-" :: writtenItems column rest

def writtenEntries (column : Nat) : List (Node × Node) → List Written
  | [] => []
  | (k, v) :: rest =>
    let inner (fresh : Bool) : Place := ⟨column + 2, true, fresh⟩
    let first :=
      if isShortKey k then [(written (inner false) v).behind ((written (inner true) k).head ++ ":")]
      else [(written (inner true) k).behind "?", (written (inner true) v).behind ":"]
    first ++ writtenEntries column rest

end

/-! ## What cannot be written -/

/-- A mapping of one entry is taken for a tag with its value until its key has been seen. Such a key must not
be a mapping of one entry itself, or tagged. -/
def isBadOnlyKey : Node → Bool
  | mapping [_] => true
  | tagged _ _ => true
  | _ => false

mutual

/-- Whether a value can be written. What has a tag of its own is not taken for one. -/
def isWritable (hasTag : Bool) : Node → Bool
  | sequence items => areWritable items
  | mapping [(k, v)] => (hasTag || !isBadOnlyKey k) && isWritable false k && isWritable false v
  | mapping entries => entriesAreWritable entries
  | tagged _ value => isWritable true value
  | _ => true

def areWritable : List Node → Bool
  | [] => true
  | v :: rest => isWritable false v && areWritable rest

def entriesAreWritable : List (Node × Node) → Bool
  | [] => true
  | (k, v) :: rest => isWritable false k && isWritable false v && entriesAreWritable rest

end

/-- The text of a value, if it can be written. -/
def blockText? (value : Node) : Option String :=
  if value.isWritable false then
    let w := value.written ⟨0, false, true⟩
    some ("\n".intercalate (w.head :: w.lines))
  else none

end CatalogGate.Yaml.Node
