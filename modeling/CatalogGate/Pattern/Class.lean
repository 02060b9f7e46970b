-- Classes of characters in brackets.
import CatalogGate.Pattern.Escape

namespace CatalogGate.Pattern

open Reader

/-- How two classes are combined. -/
inductive Operator where
  | intersection
  | difference
  | symmetricDifference
deriving Repr, DecidableEq

def Operator.apply : Operator → CharSet → CharSet → CharSet
  | intersection => .intersection
  | difference => .difference
  | symmetricDifference => .symmetricDifference

/-- The fault of an operator where classes cannot be combined. -/
def Operator.fault : Operator → Fault
  | intersection => .classIntersection
  | difference => .classDifference
  | symmetricDifference => .classSymmetricDifference

/-- The operator at the start of a text. -/
def operator? : List Char → Option Operator
  | '&' :: '&' :: _ => some .intersection
  | '-' :: '-' :: _ => some .difference
  | '~' :: '~' :: _ => some .symmetricDifference
  | _ => none

/-- A part of a class, and how deep it is nested. -/
structure Member where
  set : CharSet
  levels : Nat

namespace Member

def leaf (s : CharSet) : Member := ⟨s, 0⟩

/-- All members together. They come last first. -/
def join (members : List Member) : Member :=
  ⟨.unions (members.reverse.map set),
    match members with
    | [] => 0
    | [m] => m.levels
    | _ => (members.map levels).foldl max 0 + 1⟩

/-- What an operator makes of the members before it and those behind it. The case of letters counts for
neither of them where it does not count. -/
def combine (d : Dialect) (flags : Flags) (pending : Option (Operator × Member)) (last : Member) : Member :=
  match pending with
  | none => last
  | some (operator, first) =>
    ⟨operator.apply (d.fold flags first.set) (d.fold flags last.set), max first.levels last.levels + 1⟩

end Member

/-- The set with a name between colons and brackets, and the text behind it. -/
def namedClass? (d : Dialect) (flags : Flags) (cs : List Char) : Option (CharSet × List Char) := do
  match cs with
  | '[' :: ':' :: rest =>
    let (negated, rest) := match rest with
      | '^' :: t => (true, t)
      | t => (false, t)
    let named ← CharSet.ofName? (String.ofList (rest.takeWhile (· ≠ ':')))
    let folded := if d.wide then d.fold flags named else named
    match rest.dropWhile (· ≠ ':') with
    | ':' :: ']' :: rest => some (if negated then .complement folded else folded, rest)
    | _ => none
  | _ => none

/-- One character or a set of them. A letter behind a backslash brings its other case with it where only
ASCII has cases. -/
def readClassItem : Reader Item := do
  let d ← read
  match ← char? with
  | some '\\' =>
    match ← readEscape with
    | .char c =>
      let flags ← flags
      return if !d.wide && flags.ignoreCase && c.isAlpha then .set (d.fold flags (.single c)) else .char c
    | item => return item
  | some c =>
    skip 1
    return .char c
  | none => throw .classUnclosed

/-- The set that an item of a class adds. -/
def Item.set? : Item → Except Fault CharSet
  | .char c => .ok (.single c)
  | .set s => .ok s
  | .boundary _ => .error .classInvalidItem

/-- The end of a range that an item of a class is. -/
def Item.end? : Item → Except Fault Char
  | .char c => .ok c
  | _ => .error .classRangeOfSets

/-- A character, a set or a range from one character to another. -/
def readClassRange : Reader CharSet := do
  let first ← readClassItem
  skipSpaced
  if ← atEnd then throw .classUnclosedAfterItem
  let state ← get
  let after := peekSpaced? state
  if state.rest.head? ≠ some '-' ∨ after = some ']' ∨ after = some '-' then first.set?
  else
    nextOr .classUnclosedAfterDash
    let last ← readClassItem
    let low ← first.end?
    let high ← last.end?
    if high < low then throw .classRangeOutOfOrder
    return .between low high

/-- The dashes at the start of a class. -/
def readDashes : Nat → Reader (List Member)
  | 0 => return []
  | fuel + 1 => do
    if (← char?) = some '-' then
      nextOr .classUnclosedAfterDash
      return .leaf (.single '-') :: (← readDashes fuel)
    return []

mutual

/-- A class; its opening bracket stands here. Every turn takes a character, which bounds the fuel. -/
def readBracket : Nat → Reader Member
  | 0 => throw .classUnclosed
  | fuel + 1 => do
    nextOr .classUnclosed
    let negated := (← char?) = some '^'
    if negated then nextOr .classUnclosedAfterNegation
    let dashes ← readDashes (← get).rest.length
    let mut first := dashes
    if dashes.isEmpty && (← char?) = some ']' then
      nextOr .classUnclosedAfterBracket
      first := [.leaf (.single ']')]
    let all ← readMembers fuel none first
    let folded := (← read).fold (← flags) all.set
    return ⟨if negated then .complement folded else folded, all.levels + 1⟩

/-- The members up to the closing bracket, behind those read before, which come last first, and behind an
operator. -/
def readMembers : Nat → Option (Operator × Member) → List Member → Reader Member
  | 0, _, _ => throw .classUnclosed
  | fuel + 1, pending, members => do
    let d ← read
    skipSpaced
    let flags ← flags
    match (← get).rest with
    | [] => throw .classUnclosed
    | '[' :: rest =>
      match namedClass? d flags ('[' :: rest) with
      | some (named, rest) =>
        setRest rest
        readMembers fuel pending (.leaf named :: members)
      | none =>
        if !d.wide then throw .classNested
        let inner ← readBracket fuel
        readMembers fuel pending (inner :: members)
    | ']' :: _ =>
      skip 1
      return .combine d flags pending (.join members)
    | rest =>
      match operator? rest with
      | some operator =>
        if !d.wide then throw operator.fault
        skip 2
        readMembers fuel (some (operator, .combine d flags pending (.join members))) []
      | none =>
        let item ← readClassRange
        readMembers fuel pending (.leaf item :: members)

end

/-- A class; its opening bracket stands here. -/
def readClass : Reader Member := do readBracket ((← get).rest.length + 1)

end CatalogGate.Pattern
