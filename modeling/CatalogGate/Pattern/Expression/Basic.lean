-- Expressions: patterns that can also refer to what a group has found, look ahead and behind, and forbid to
-- go back into a part. An expression without any of that is plain, and is found as a pattern is.
import CatalogGate.Pattern.Basic

namespace CatalogGate.Pattern

inductive Expression where
  | empty
  | one (s : CharSet)
  | boundary (b : Boundary)
  | sequence (parts : List Expression)
  | choice (parts : List Expression)
  | group (number : Nat) (inner : Expression)
  /-- Whether, as wanted, `inner` is found straight ahead of the place, or straight behind it. -/
  | look (ahead wanted : Bool) (inner : Expression)
  /-- As often as can be, or as seldom. -/
  | repeated (least : Nat) (most : Option Nat) (longFirst : Bool) (inner : Expression)
  /-- The text that a group has found. -/
  | same (group : Nat)
  /-- There is no going back into `inner`. -/
  | atomic (inner : Expression)
  /-- What is found starts here. -/
  | startHere
  /-- The place where the search has started. -/
  | searchStart
  /-- A group has found a text. -/
  | isFound (group : Nat)
  | conditional (test yes no : Expression)
deriving Repr

namespace Expression

/-- Whether an expression is the one that nothing is written for. -/
def isEmpty : Expression → Bool
  | empty => true
  | _ => false

/-- Whether a repetition may stand behind an expression. -/
def isRepeatable : Expression → Bool
  | look .. => false
  | empty => false
  | boundary _ => false
  | _ => true

mutual

/-- How many characters an expression takes at least. -/
def minSize : Expression → Nat
  | empty => 0
  | one _ => 1
  | boundary _ => 0
  | sequence parts => sumSize parts
  | choice parts => leastSize parts
  | group _ inner => inner.minSize
  | look .. => 0
  | repeated least _ _ inner => inner.minSize * least
  | same _ => 0
  | atomic inner => inner.minSize
  | startHere => 0
  | searchStart => 0
  | isFound _ => 0
  | conditional test yes no => test.minSize + min yes.minSize no.minSize

def sumSize : List Expression → Nat
  | [] => 0
  | e :: rest => e.minSize + sumSize rest

def leastSize : List Expression → Nat
  | [] => 0
  | [e] => e.minSize
  | e :: rest => min e.minSize (leastSize rest)

end

mutual

/-- Whether an expression always takes as many characters. -/
def isFixed : Expression → Bool
  | empty => true
  | one _ => true
  | boundary _ => true
  | sequence parts => allFixed parts
  | choice parts => allFixed parts && parts.all fun e => e.minSize == leastSize parts
  | group _ inner => inner.isFixed
  | look .. => true
  | repeated least most _ inner => inner.isFixed && most == some least
  | same _ => false
  | atomic inner => inner.isFixed
  | startHere => true
  | searchStart => true
  | isFound _ => true
  | conditional test yes no =>
    test.isFixed && yes.isFixed && no.isFixed && test.minSize + yes.minSize == no.minSize

def allFixed : List Expression → Bool
  | [] => true
  | e :: rest => e.isFixed && allFixed rest

end

mutual

/-- Whether an expression says no more than a pattern can. Groups whose text counts elsewhere do. -/
def isPlain (referred : List Nat) : Expression → Bool
  | empty => true
  | one _ => true
  | boundary b => [Boundary.textStart, .textEnd, .lineStart, .lineEnd].contains b
  | sequence parts => allPlain referred parts
  | choice parts => allPlain referred parts
  | group number inner => !referred.contains number && inner.isPlain referred
  | look .. => false
  | repeated _ _ _ inner => inner.isPlain referred
  | same _ => false
  | atomic _ => false
  | startHere => false
  | searchStart => false
  | isFound _ => false
  | conditional .. => false

def allPlain (referred : List Nat) : List Expression → Bool
  | [] => true
  | e :: rest => e.isPlain referred && allPlain referred rest

end

mutual

/-- The pattern that a plain expression is. -/
def pattern : Expression → Pattern
  | one s => .one s
  | boundary b => .boundary b
  | sequence parts => .sequences (patterns parts)
  | choice parts => .choices (patterns parts)
  | group _ inner => inner.pattern
  | repeated least most _ inner => .repeated least most inner.pattern
  | look ahead wanted inner => .look ahead wanted inner.pattern
  | atomic inner => inner.pattern
  | _ => .empty

def patterns : List Expression → List Pattern
  | [] => []
  | e :: rest => e.pattern :: patterns rest

end

/-! ## Size -/

/-- How many bytes the text of a character takes. -/
def byteLength (n : Nat) : Nat := if n < 0x80 then 1 else if n < 0x800 then 2 else if n < 0x10000 then 3 else 4

/-- The bytes of the states for a set. A state stands for each byte of a text; between many ranges states
are shared. -/
def setSize (s : CharSet) : Nat :=
  match s.ranges with
  | [r] => 32 * byteLength r.2
  | ranges => (ranges.map fun r => 8 * byteLength r.2).foldl (· + ·) 32

mutual

/-- About how many bytes a matcher for a plain expression takes. -/
def size : Expression → Nat
  | one s => setSize s
  | sequence parts => sumBytes parts
  | choice parts => sumBytes parts + 32
  | group _ inner => inner.size + 64
  | repeated least most _ inner =>
    match most with
    | some most => least * inner.size + (most - least) * (inner.size + 32)
    | none => max 1 least * inner.size + 32
  | look _ _ inner => inner.size
  | atomic inner => inner.size
  | conditional test yes no => test.size + yes.size + no.size
  | _ => 32

def sumBytes : List Expression → Nat
  | [] => 0
  | e :: rest => e.size + sumBytes rest

end

/-- The bytes that a matcher may take. -/
def sizeLimit : Nat := 10485760

end Expression

end CatalogGate.Pattern
