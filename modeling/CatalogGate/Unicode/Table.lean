-- Tables of character sets as text. A name, or several with slashes between, stands in front of a colon;
-- the ranges of its set follow in hexadecimal.
import CatalogGate.Text.CharSet
import CatalogGate.Text.Hex

namespace CatalogGate.Unicode

/-- Names with a set. -/
structure Row where
  names : List String
  set : CharSet

/-- The words between blanks and line feeds. -/
def words (text : String) : List (List Char) :=
  (text.toList.splitOnP fun c => c = ' ' || c = '\n').filter fun word => !word.isEmpty

def hexNumber (digits : List Char) : Nat :=
  digits.foldl (fun n c => 16 * n + (Text.hexValue? c).getD 0) 0

/-- One code point, or two with a dash between. -/
def readRange (word : List Char) : Nat × Nat :=
  match word.splitOn '-' with
  | [low, high] => (hexNumber low, hexNumber high)
  | _ => (hexNumber word, hexNumber word)

/-- Adds a word to the rows that come behind it. Ranges that no name stands before yet are kept aside. -/
def addWord (word : List Char) (read : List Row × List (Nat × Nat)) : List Row × List (Nat × Nat) :=
  if word.getLast? = some ':' then
    (⟨(word.dropLast.splitOn '/').map String.ofList, .ofRanges read.2⟩ :: read.1, [])
  else (read.1, readRange word :: read.2)

def readRows (text : String) : List Row := ((words text).foldr addWord ([], [])).1

/-- The set that one of the rows gives a name. -/
def find? (rows : List Row) (name : String) : Option CharSet := (rows.find? (·.names.contains name)).map Row.set

/-- The set with a name; nothing if there is none. -/
def named (rows : List Row) (name : String) : CharSet := (find? rows name).getD .none

/-! ## Names as they are compared -/

/-- Without the word `is` in front, in small letters, and without blanks, dashes and what is not ASCII. -/
def plainName (name : String) : String :=
  let (hasIs, cs) := match name.toList with
    | i :: s :: rest => if i.toLower = 'i' ∧ s.toLower = 's' then (true, rest) else (false, i :: s :: rest)
    | cs => (false, cs)
  let kept := cs.filterMap fun c =>
    if c = ' ' ∨ c = '_' ∨ c = '-' ∨ 0x80 ≤ c.toNat then none else some c.toLower
  if hasIs ∧ kept = ['c'] then "isc" else String.ofList kept

/-- As `find?`, with names compared in their plain form. -/
def findPlain? (rows : List Row) (plain : String) : Option CharSet :=
  (rows.find? fun row => row.names.any fun name => plainName name == plain).map Row.set

end CatalogGate.Unicode
