-- The text of a pattern while it is read: what is left of it, which flags are on, and what its classes mean.
import CatalogGate.Pattern.Fault
import CatalogGate.Text.Blank
import CatalogGate.Unicode.Folding
import CatalogGate.Unicode.Property

namespace CatalogGate.Pattern

/-- The flags that are on at a place of a pattern. -/
structure Flags where
  ignoreCase : Bool
  multiLine : Bool
  dotAll : Bool
  /-- A carriage return ends a line too. -/
  anyLines : Bool
  /-- Repetitions are as short as they can be, and a question mark behind makes them long. -/
  shortFirst : Bool
  /-- Blanks and comments between the parts of a pattern do not count. -/
  spaced : Bool
deriving Repr, DecidableEq

def plainFlags : Flags := ⟨false, false, false, false, false, false⟩

/-- What the classes of a pattern mean. -/
structure Dialect where
  /-- Classes may hold and combine classes, name properties of characters, and know the case of letters
  beyond ASCII. -/
  wide : Bool
  digits : CharSet
  blanks : CharSet
  words : CharSet

namespace Dialect

/-- Classes know ASCII only. -/
def ascii : Dialect := ⟨false, .digits, .blanks, .words⟩

/-- Classes know all characters. -/
def unicode : Dialect := ⟨true, Unicode.Property.digit, Unicode.Property.space, Unicode.Property.word⟩

/-- The blanks of patterns in schemas. -/
def schemaBlanks : CharSet :=
  .unions [.between '\t' '\r', .single ' ', .single '\u00a0', .single '\ufeff', .single '\u2003', .single '\u2029']

/-- Classes know all characters; digits and words are those of ASCII. -/
def schema : Dialect := ⟨true, .digits, schemaBlanks, .words⟩

/-- With the other cases of letters if case does not count. -/
def fold (d : Dialect) (flags : Flags) (s : CharSet) : CharSet :=
  if !flags.ignoreCase then s else if d.wide then Unicode.Folding.anyCase s else s.anyCase

end Dialect

structure Source where
  rest : List Char
  flags : Flags
  /-- The names of groups so far. -/
  names : List String

/-- Reading a part of a pattern. -/
abbrev Reader := ReaderT Dialect (StateT Source (Except Fault))

namespace Reader

def char? : Reader (Option Char) := return (← get).rest.head?

def atEnd : Reader Bool := return (← get).rest.isEmpty

def flags : Reader Flags := return (← get).flags

def setFlags (flags : Flags) : Reader Unit := modify fun s => { s with flags }

def setRest (rest : List Char) : Reader Unit := modify fun s => { s with rest }

def skip (n : Nat) : Reader Unit := modify fun s => { s with rest := s.rest.drop n }

/-- Without the blanks and comments at the start. -/
def dropSpaced (comment : Bool) : List Char → List Char
  | [] => []
  | c :: rest =>
    if comment then dropSpaced (c ≠ '\n') rest
    else if Text.isSpace c then dropSpaced false rest
    else if c = '#' then dropSpaced true rest
    else c :: rest

def skipSpaced : Reader Unit :=
  modify fun s => if s.flags.spaced then { s with rest := dropSpaced false s.rest } else s

/-- Goes on by one character and behind what does not count. -/
def next : Reader Unit := do
  skip 1
  skipSpaced

/-- Goes on as `next` does; there has to be more. -/
def nextOr (fault : Fault) : Reader Unit := do
  next
  if ← atEnd then throw fault

/-- Goes on behind a text if it stands here. -/
def skipIf (text : String) : Reader Bool := do
  if text.toList.isPrefixOf (← get).rest then
    skip text.length
    return true
  return false

/-- The character behind this one. Blanks between do not count where they do not; of a comment only its
first character and the blanks behind that are passed over. -/
def peekSpaced? (s : Source) : Option Char :=
  let after := s.rest.drop 1
  if !s.flags.spaced then after.head?
  else
    let dropBlanks := fun (cs : List Char) => cs.dropWhile Text.isSpace
    match dropBlanks after with
    | '#' :: rest => ((dropBlanks rest).head?).orElse fun _ => after.head?
    | [] => after.head?
    | c :: _ => some c

end Reader

end CatalogGate.Pattern
