-- Reading patterns. Beside the pattern itself it matters how deep it is nested and how much a matcher for it
-- takes, since both are limited.
import CatalogGate.Decimal.Reading
import CatalogGate.Pattern.Class

namespace CatalogGate.Pattern

open Reader

/-! ## Parts -/

/-- A part of a pattern that has been read. -/
structure Part where
  pattern : Pattern
  /-- How deep it is nested. -/
  levels : Nat
  /-- How many bytes its states take. -/
  size : Nat
  /-- How many bytes the names of its groups take, which are kept once. -/
  groupSize : Nat
  matchesEmpty : Bool
  /-- Whether a repetition may stand behind it. -/
  repeatable : Bool

namespace Part

/-- The bytes that one state of a matcher takes. -/
def stateSize : Nat := 32

/-- The bytes that the choice between two states takes. -/
def choiceSize : Nat := stateSize + 8

/-- The bytes that a pattern may take. -/
def sizeLimit : Nat := 10485760

def leaf (pattern : Pattern) (matchesEmpty : Bool) : Part := ⟨pattern, 0, stateSize, 0, matchesEmpty, true⟩

def empty : Part := leaf .empty true

def boundary (b : Boundary) : Part := leaf (.boundary b) true

def ofChar (c : Char) : Part := leaf (.one (.single c)) false

/-- A class. -/
def ofSet (s : CharSet) (levels : Nat) : Part :=
  ⟨.one s, levels, stateSize + 8 * s.ranges.length, 0, false, true⟩

/-- Flags, which hold from here on. -/
def flags : Part := { empty with size := 0, repeatable := false }

/-- The levels of parts that are joined to one. -/
def joinedLevels (parts : List Part) : Nat := (parts.map levels).foldl max 0 + 1

def sequence : List Part → Part
  | [] => empty
  | [part] => part
  | parts =>
    ⟨Pattern.sequences (parts.map Part.pattern), joinedLevels parts, (parts.map size).foldl (· + ·) 0,
      (parts.map groupSize).foldl (· + ·) 0, parts.all matchesEmpty, true⟩

def choice : List Part → Part
  | [part] => part
  | parts =>
    ⟨Pattern.choices (parts.map Part.pattern), joinedLevels parts,
      (parts.map size).foldl (· + ·) (2 * stateSize + 4 * parts.length), (parts.map groupSize).foldl (· + ·) 0,
      parts.any matchesEmpty, true⟩

/-- The bytes of a part that is repeated. Repetitions that need not be made have a choice before each of
them. -/
def repeatedSize (least : Nat) (most : Option Nat) (part : Part) : Nat :=
  match least, most with
  | 0, some 1 => part.size + choiceSize + stateSize
  | 0, none => if part.matchesEmpty then part.size + 2 * choiceSize + stateSize else part.size + choiceSize
  | _, none => least * part.size + choiceSize
  | _, some most =>
    if least = most then least * part.size
    else
      (if least = 0 then stateSize else least * part.size) + stateSize
        + (most - least) * (choiceSize + part.size)

def repeated (least : Nat) (most : Option Nat) (part : Part) : Part :=
  match most with
  | some 0 => empty
  | _ =>
    if least = 1 ∧ most = some 1 then part
    else
      ⟨.repeated least most part.pattern, part.levels + 1, repeatedSize least most part, part.groupSize,
        least = 0 || part.matchesEmpty, true⟩

/-- A group that is counted, with a name or without one. -/
def group (name : Option String) (part : Part) : Part :=
  { part with
    levels := part.levels + 1
    size := part.size + 2 * stateSize
    groupSize := part.groupSize + 16 + (name.map fun name => name.utf8ByteSize + 4).getD 0 }

/-- The bytes of a matcher for a whole pattern. -/
def totalSize (part : Part) : Nat := part.size + part.groupSize + 3 * stateSize + 16

end Part

/-- A character, with its other cases where case does not count. -/
def charPart (d : Dialect) (flags : Flags) (c : Char) : Part :=
  if flags.ignoreCase && (d.wide || c.isAlpha) then .ofSet (d.fold flags (.single c)) 0 else .ofChar c

def itemPart (d : Dialect) (flags : Flags) : Item → Part
  | .char c => charPart d flags c
  | .set s => .ofSet s 0
  | .boundary b => .boundary b

/-- What a point stands for. -/
def dotSet (flags : Flags) : CharSet :=
  if flags.dotAll then .complement .none
  else if flags.anyLines then .complement (.union (.single '\n') (.single '\r'))
  else .complement (.single '\n')

def startBoundary (flags : Flags) : Boundary :=
  if flags.multiLine then (if flags.anyLines then .anyLineStart else .lineStart) else .textStart

def endBoundary (flags : Flags) : Boundary :=
  if flags.multiLine then (if flags.anyLines then .anyLineEnd else .lineEnd) else .textEnd

/-! ## Repetitions -/

/-- A question mark behind a repetition does not change what is found. -/
def skipLazyMark : Reader Unit := do
  if (← char?) = some '?' then skip 1

def readDigits : Nat → List Char → Reader (List Char)
  | 0, digits => return digits.reverse
  | fuel + 1, digits => do
    match ← char? with
    | some c =>
      if c.isDigit then
        next
        readDigits fuel (c :: digits)
      else return digits.reverse
    | none => return digits.reverse

/-- A number of a count, with blanks around it. It has to fit into 32 bits. -/
def readCountNumber : Reader Nat := do
  modify fun s => { s with rest := s.rest.dropWhile Text.isSpace }
  let digits ← readDigits (← get).rest.length []
  modify fun s => { s with rest := s.rest.dropWhile Text.isSpace }
  if digits.isEmpty then throw .noDigits
  let n := Decimal.natOfDigits digits
  if UInt32.size ≤ n then throw .numberTooLarge
  return n

/-- A count in braces; the opening one stands here. -/
def readCount : Reader (Nat × Option Nat) := do
  nextOr .countUnclosed
  let least ← readCountNumber
  if ← atEnd then throw .countUnclosedAfterLeast
  let mut most := some least
  if (← char?) = some ',' then
    nextOr .countUnclosedAfterComma
    if (← char?) = some '\x7d' then most := none
    else most := some (← readCountNumber)
    if ← atEnd then throw .countUnclosedAfterMost
  if (← char?) ≠ some '\x7d' then throw .countInvalid
  next
  skipLazyMark
  if most.any (· < least) then throw .countOutOfOrder
  return (least, most)

/-! ## Groups -/

/-- Whether a character may stand in the name of a group. -/
def isGroupNameChar (first : Bool) (c : Char) : Bool :=
  if first then c == '_' || Unicode.Property.alphabetic.contains c
  else c == '_' || c == '.' || c == '[' || c == ']' || Unicode.Property.alphanumeric.contains c

/-- The name of a group up to the closing bracket. -/
def readGroupName : Reader String := do
  let rest := (← get).rest
  if rest.isEmpty then throw .missingName
  let name := rest.takeWhile (· ≠ '>')
  match name with
  | [] => pure ()
  | c :: more =>
    if !isGroupNameChar true c || !more.all (isGroupNameChar false) then throw .invalidName
  if name.length = rest.length then throw .unclosedName
  if name.isEmpty then throw .emptyName
  skip (name.length + 1)
  let name := String.ofList name
  if (← get).names.contains name then throw .duplicateName
  modify fun s => { s with names := name :: s.names }
  return name

def setFlag (flags : Flags) (on : Bool) (c : Char) : Except Fault Flags :=
  match c with
  | 'i' => .ok { flags with ignoreCase := on }
  | 'm' => .ok { flags with multiLine := on }
  | 's' => .ok { flags with dotAll := on }
  | 'U' => .ok { flags with shortFirst := on }
  | 'R' => .ok { flags with anyLines := on }
  | 'x' => .ok { flags with spaced := on }
  | 'u' => .ok flags
  | _ => .error .unknownFlag

/-- Flags up to a colon or a closing parenthesis, which is left. `seen` holds the letters before. -/
def readFlags : Nat → List Char → Flags → Reader Flags
  | 0, _, flags => return flags
  | fuel + 1, seen, flags => do
    match ← char? with
    | none => throw .unclosedFlags
    | some c =>
      if c = ':' ∨ c = ')' then
        if seen.head? = some '-' then throw .danglingNegation
        return flags
      let mut now := flags
      if c = '-' then
        if seen.contains '-' then throw .repeatedNegation
      else
        now ← setFlag flags (!seen.contains '-') c
        if seen.contains c then throw .duplicateFlag
      skip 1
      if ← atEnd then throw .unclosedFlags
      readFlags fuel (c :: seen) now

/-! ## Patterns -/

/-- How deep the groups of a pattern may be nested where only ASCII counts. -/
def nestLimit : Nat := 50

/-- How deep the groups and classes of other patterns may be nested. -/
def wideNestLimit : Nat := 250

/-- Which look-around starts here. -/
def isLookMark (rest : List Char) : Bool :=
  ["?=", "?!", "?<=", "?<!"].any fun mark => mark.toList.isPrefixOf rest

def readSimple (c : Char) : Reader Part := do
  let d ← read
  let flags ← flags
  match c with
  | '\\' => return itemPart d flags (← readEscape)
  | '.' =>
    skip 1
    return .ofSet (dotSet flags) 0
  | '^' =>
    skip 1
    return .boundary (startBoundary flags)
  | '$' =>
    skip 1
    return .boundary (endBoundary flags)
  | _ =>
    skip 1
    return charPart d flags c

/-- The last part, which a repetition needs. -/
def lastPart (fault : Fault) (parts : List Part) : Except Fault (Part × List Part) :=
  match parts with
  | part :: before => if part.repeatable then .ok (part, before) else .error fault
  | [] => .error fault

/-- The repetition that a mark, which stands here, makes of the last part. -/
def readRepetition (mark : Char) (parts : List Part) : Reader (List Part) := do
  let (part, before) ← lastPart .nothingToRepeat parts
  skip 1
  skipLazyMark
  let (least, most) := if mark = '?' then (0, some 1) else if mark = '*' then (0, none) else (1, none)
  return part.repeated least most :: before

/-- The repetition that a count, which starts here, makes of the last part. -/
def readCounted (parts : List Part) : Reader (List Part) := do
  let (part, before) ← lastPart .nothingToCount parts
  let (least, most) ← readCount
  return part.repeated least most :: before

mutual

/-- Alternatives up to the end of a group or of the pattern. The parts of the alternative that is being
read come last first, and so do the alternatives before it. Every turn takes a character, which bounds the
fuel. -/
def readChoice : Nat → Nat → List Part → List Part → Reader Part
  | 0, _, _, _ => throw .tooDeep
  | fuel + 1, depth, alternatives, parts => do
    skipSpaced
    match ← char? with
    | none => return finish alternatives parts
    | some ')' =>
      if depth = 0 then throw .unopenedGroup
      return finish alternatives parts
    | some '(' =>
      let d ← read
      let flags ← flags
      let group ← readGroup fuel depth
      if group.repeatable then setFlags flags
      if (← char?) ≠ some ')' then throw .unclosedGroup
      skip 1
      readChoice fuel depth alternatives (if group.repeatable || d.wide then group :: parts else parts)
    | some '|' =>
      skip 1
      readChoice fuel depth (.sequence parts.reverse :: alternatives) []
    | some '[' =>
      let member ← readClass
      let levels := if (← read).wide then member.levels else 0
      readChoice fuel depth alternatives (.ofSet member.set levels :: parts)
    | some '\x7b' =>
      let parts ← readCounted parts
      readChoice fuel depth alternatives parts
    | some c =>
      if c = '?' ∨ c = '*' ∨ c = '+' then
        let parts ← readRepetition c parts
        readChoice fuel depth alternatives parts
      else
        let part ← readSimple c
        readChoice fuel depth alternatives (part :: parts)
where
  finish (alternatives parts : List Part) : Part :=
    .choice (.sequence parts.reverse :: alternatives).reverse

/-- What stands behind an opening parenthesis, which stands here. -/
def readGroup : Nat → Nat → Reader Part
  | 0, _ => throw .tooDeep
  | fuel + 1, depth => do
    next
    if isLookMark (← get).rest then throw .lookAround
    if (← skipIf "?P<") || (← skipIf "?<") then
      let name ← readGroupName
      return (← readNested fuel depth).group name
    if ← skipIf "?" then
      match ← char? with
      | none => throw .questionAtEnd
      | some first =>
        let old ← flags
        let new ← readFlags ((← get).rest.length + 1) [] old
        setFlags new
        if (← char?) = some ')' then
          if first = ')' then throw .emptyFlags
          return .flags
        skip 1
        return (← readNested fuel depth)
    return (← readNested fuel depth).group none

/-- The alternatives inside a group. -/
def readNested : Nat → Nat → Reader Part
  | 0, _ => throw .tooDeep
  | fuel + 1, depth => do
    if !(← read).wide && nestLimit < depth + 1 then throw .tooDeep
    return { ← readChoice fuel (depth + 1) [] [] with repeatable := true }

end

/-- The part that a whole text writes. -/
def readPart (d : Dialect) (text : List Char) : Except Fault Part := do
  let (part, _) ← ((readChoice (3 * text.length + 3) 0 [] []).run d).run ⟨text, plainFlags, []⟩
  if (if d.wide then wideNestLimit else nestLimit) < part.levels then throw .tooDeep
  return part

/-- The pattern that a text writes, of which classes know ASCII only. -/
def readPlain (text : List Char) : Except Fault Pattern := do
  let part ← readPart .ascii text
  if Part.sizeLimit < part.totalSize then throw .tooBig
  return part.pattern

/-! ## Patterns between slashes -/

/-- The text and the flags of a pattern that stands between slashes with flags behind. -/
def splitSlashes? (text : List Char) : Option (List Char × List Char) :=
  match text with
  | '/' :: rest =>
    let flags := (rest.reverse.takeWhile (· ≠ '/')).reverse
    if flags.length = rest.length then none
    else if flags.all fun c => "imsgu".contains c then some (rest.take (rest.length - flags.length - 1), flags)
    else none
  | _ => none

/-- The pattern that a text writes, with or without slashes around it. Of the flags behind the slashes
those that change what is found are put in front. -/
def ofText (text : String) : Except Fault Pattern :=
  match splitSlashes? text.toList with
  | some (source, flags) =>
    let inlined := flags.filter fun c => "ims".contains c
    readPlain (if inlined.isEmpty then source else "(?".toList ++ inlined ++ [')'] ++ source)
  | none => readPlain text.toList

end CatalogGate.Pattern
