-- The values of a YAML document.
import CatalogGate.Decimal.Layout
import CatalogGate.Text.Quoted
import CatalogGate.Yaml.Scalar

namespace CatalogGate.Yaml

/-- A value. The entries of a mapping stand in the order of the text, and their keys may be of any kind. -/
inductive Node where
  | null
  | bool (value : Bool)
  | int (value : Int)
  | float (value : Float)
  | string (value : String)
  | sequence (items : List Node)
  | mapping (entries : List (Node × Node))
  | tagged (tag : String) (value : Node)

instance : Inhabited Node := ⟨.null⟩

namespace Node

/-! ## Equality -/

/-- Equality of numbers as keys: all that are not numbers are one key. -/
def sameFloat (a b : Float) : Bool := (a.isNaN && b.isNaN) || a == b

mutual

/-- Equality of values. The order of entries does not count. -/
def same : Node → Node → Bool
  | null, null => true
  | bool a, bool b => a == b
  | int a, int b => a == b
  | float a, float b => sameFloat a b
  | string a, string b => a == b
  | sequence a, sequence b => sameItems a b
  | mapping a, mapping b => a.length == b.length && sameEntries a b
  | tagged s a, tagged t b => s == t && same a b
  | _, _ => false

def sameItems : List Node → List Node → Bool
  | [], [] => true
  | a :: as, b :: bs => same a b && sameItems as bs
  | _, _ => false

/-- Every entry on the left has an equal one on the right. -/
def sameEntries : List (Node × Node) → List (Node × Node) → Bool
  | [], _ => true
  | (k, v) :: rest, other => (other.any fun (l, w) => same k l && same v w) && sameEntries rest other

end

/-! ## Entries -/

def lookup (key : Node) : List (Node × Node) → Option Node
  | [] => none
  | (k, v) :: rest => if k.same key then some v else lookup key rest

/-- Adds an entry at the end unless there is one with this key. -/
def addNew (entries : List (Node × Node)) (entry : Node × Node) : List (Node × Node) :=
  if (lookup entry.1 entries).isSome then entries else entries ++ [entry]

/-- Takes the first entry with a key out. The last entry moves to its place. -/
def takeOut (key : Node) (entries : List (Node × Node)) : Option (Node × List (Node × Node)) :=
  match entries.findIdx? (·.1.same key) with
  | none => none
  | some i =>
    match entries[i]?, entries.getLast? with
    | some (_, v), some last => some (v, (entries.set i last).dropLast)
    | _, _ => none

/-! ## Keys in messages -/

/-- Written out while the point stands from four places before to sixteen places after the first digit. -/
def amount : Decimal.Layout := ⟨-4, 16, true, false⟩

def floatText (f : Float) : String :=
  if f.isNaN then ".nan"
  else if f.isFinite then amount.float f
  else if f < 0.0 then "-.inf"
  else ".inf"

/-- How a key is named where it occurs twice. -/
def duplicateText : Node → String
  | null => "with null key"
  | bool b => s!"with key \x60{b}\x60"
  | int i => s!"with key {i}"
  | float f => "with key " ++ floatText f
  | string s => "with key " ++ Text.quoted s
  | _ => "in YAML map"

end Node

end CatalogGate.Yaml
