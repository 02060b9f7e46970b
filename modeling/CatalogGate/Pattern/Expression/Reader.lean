-- Reading expressions. The letters of a class mean what the dialect says.
import CatalogGate.Decimal.Reading
import CatalogGate.Pattern.Expression.Basic
import CatalogGate.Pattern.Reader

namespace CatalogGate.Pattern.Expression

/-! ## State -/

structure State where
  rest : List Char
  flags : Flags
  /-- How many groups are counted so far. -/
  groups : Nat
  /-- The names of groups with their numbers, the last one first. -/
  names : List (String × Nat)
  /-- The groups whose text counts elsewhere. -/
  referred : List Nat
  /-- Whether a group is referred to by its number. -/
  numbered : Bool

/-- Reading a part of an expression; nothing if there is none. -/
abbrev Reader := ReaderT Dialect (StateT State Option)

namespace Reader

def rest : Reader (List Char) := return (← get).rest

def setRest (rest : List Char) : Reader Unit := modify fun s => { s with rest }

def flags : Reader Flags := return (← get).flags

def setFlags (flags : Flags) : Reader Unit := modify fun s => { s with flags }

/-- The text behind the parenthesis that ends a comment. Behind a backslash a character counts for
nothing. -/
def afterComment? : List Char → Option (List Char)
  | [] => none
  | ')' :: rest => some rest
  | '\\' :: _ :: rest => afterComment? rest
  | _ :: rest => afterComment? rest

/-- Behind blanks and comments, where they do not count, and comments in parentheses. -/
def dropIgnored? (spaced : Bool) : Nat → List Char → Option (List Char)
  | 0, cs => some cs
  | fuel + 1, cs =>
    match cs with
    | '(' :: '?' :: '#' :: rest => do dropIgnored? spaced fuel (← afterComment? rest)
    | '#' :: rest =>
      if spaced then dropIgnored? spaced fuel ((rest.dropWhile (· ≠ '\n')).drop 1) else some cs
    | c :: rest =>
      if spaced && (c = ' ' || c = '\r' || c = '\n' || c = '\t') then dropIgnored? spaced fuel rest
      else some cs
    | [] => some []

def skipIgnored : Reader Unit := do
  let s ← get
  match dropIgnored? s.flags.spaced (s.rest.length + 1) s.rest with
  | some rest => setRest rest
  | none => failure

/-- Goes on behind a text if it stands here. -/
def skipIf (text : String) : Reader Bool := do
  let rest ← rest
  if text.toList.isPrefixOf rest then
    setRest (rest.drop text.length)
    return true
  return false

/-- Reads as in a pattern, with blanks that count. -/
def ofPattern (r : Pattern.Reader α) : Reader α := do
  let s ← get
  match (r.run (← read)).run ⟨s.rest, { s.flags with spaced := false }, []⟩ with
  | .ok (a, source) =>
    setRest source.rest
    return a
  | .error _ => failure

end Reader

open Expression.Reader

/-! ## Names and numbers -/

/-- The number at the start of a text, and the text behind it. -/
def number? (cs : List Char) : Option (Nat × List Char) :=
  match cs.takeWhile Char.isDigit with
  | [] => none
  | digits => some (Decimal.natOfDigits digits, cs.dropWhile Char.isDigit)

/-- The name between two marks at the start of a text, and the text behind it. -/
def name? (first last : List Char) (cs : List Char) : Option (String × List Char) :=
  if first.isPrefixOf cs then
    let rest := cs.drop first.length
    let isNameChar := fun (c : Char) => c == '_' || Unicode.Property.alphanumeric.contains c
    let name := rest.takeWhile isNameChar
    let behind := rest.dropWhile isNameChar
    if !name.isEmpty && last.isPrefixOf behind then some (String.ofList name, behind.drop last.length) else none
  else none

/-- What a group has found, by its number. -/
def readNumbered (bytes : Nat) : Reader Nat := do
  match number? (← rest) with
  | some (number, behind) =>
    if number < bytes / 2 then
      modify fun s => { s with rest := behind, referred := number :: s.referred, numbered := true }
      return number
    failure
  | none => failure

/-- What a group has found, by its name or its number between two marks. -/
def readNamed (first last : String) : Reader Nat := do
  let s ← get
  match name? first.toList last.toList s.rest with
  | some (name, behind) =>
    let ofDigits := if name.all Char.isDigit then some (Decimal.natOfDigits name.toList) else none
    match ((s.names.find? (·.1 == name)).map Prod.snd).orElse fun _ => ofDigits with
    | some number =>
      modify fun s => { s with rest := behind, referred := number :: s.referred }
      return number
    | none => failure
  | none => failure

/-! ## Escapes -/

/-- A character by its code point: so many digits, or up to eight between braces. -/
def readCodePoint (length : Nat) : Reader Char := do
  let cs ← rest
  let isHex := fun (c : Char) => Text.isHexDigit c
  let ofDigits := fun (digits : List Char) (behind : List Char) => do
    match charOfHex? digits with
    | some c =>
      setRest behind
      return c
    | none => failure
  if (cs.take length).length = length ∧ (cs.take length).all isHex then ofDigits (cs.take length) (cs.drop length)
  else
    match cs with
    | '\x7b' :: inner =>
      let digits := inner.takeWhile isHex
      match inner.dropWhile isHex with
      | '\x7d' :: behind => if digits.isEmpty ∨ 8 < digits.length then failure else ofDigits digits behind
      | _ => failure
    | _ => failure

/-- The hexadecimal digits. -/
def hexDigits : CharSet := .unions [.digits, .between 'A' 'F', .between 'a' 'f']

/-- A character, with its other cases where case does not count. -/
def charSet (c : Char) : Reader CharSet := return (← read).fold (← flags) (.single c)

/-- What a backslash and the text behind it mean; the text behind it stands here. -/
def readEscape (bytes : Nat) : Reader Expression := do
  let skipOne : Reader Unit := do setRest ((← rest).drop 1)
  match ← rest with
  | [] => failure
  | c :: behind =>
    if c.isDigit then return .same (← readNumbered bytes)
    if c = 'p' ∨ c = 'P' then return .one (← ofPattern (readProperty (c = 'P')))
    match hexLength? c, namedSet? (← read) (← flags) c, namedChar? c with
    | some length, _, _ =>
      skipOne
      return .one (← charSet (← readCodePoint length))
    | _, some named, _ =>
      skipOne
      return .one named
    | _, _, some named =>
      skipOne
      return .one (← charSet named)
    | _, _, _ =>
      skipOne
      match c with
      | 'A' => return .boundary .textStart
      | 'z' => return .boundary .textEnd
      | 'b' => if behind.head? = some '\x7b' then failure else return .boundary .word
      | 'B' => if behind.head? = some '\x7b' then failure else return .boundary .notWord
      | '<' => return .boundary .wordStart
      | '>' => return .boundary .wordEnd
      | 'h' => return .one hexDigits
      | 'H' => return .one (.complement hexDigits)
      | 'e' => return .one (.single '\x1b')
      | 'K' => return .startHere
      | 'G' => return .searchStart
      | 'k' => return .same (← readNamed "<" ">")
      | _ => if c.isAlpha then failure else return .one (← charSet c)

/-! ## Repetitions -/

/-- A count in braces; the opening one stands here. -/
def readCount : Reader (Nat × Option Nat) := do
  let skipOne : Reader Unit := do setRest ((← rest).drop 1)
  let readNumber : Reader (Option Nat) := do
    match number? (← rest) with
    | some (n, behind) =>
      setRest behind
      return some n
    | none => return none
  skipOne
  skipIgnored
  let least ← readNumber
  if least.isNone && (← rest).head? ≠ some ',' then failure
  skipIgnored
  let mut most := least
  if (← rest).head? = some ',' then
    skipOne
    skipIgnored
    most ← readNumber
  skipIgnored
  if (← rest).head? ≠ some '\x7d' then failure
  skipOne
  return (least.getD 0, most)

/-- How often the part before this place may come, if a repetition stands here. Braces that hold no count
stand for themselves. -/
def readTimes : Reader (Option (Nat × Option Nat)) := do
  let s ← get
  match s.rest with
  | '?' :: rest =>
    setRest rest
    return some (0, some 1)
  | '*' :: rest =>
    setRest rest
    return some (0, none)
  | '+' :: rest =>
    setRest rest
    return some (1, none)
  | '\x7b' :: _ =>
    match (readCount.run (← read)).run s with
    | some (times, state) =>
      set state
      return some times
    | none => return none
  | _ => return none

/-- The repetition of a part that stands here, if there is one. A plus sign behind it makes it atomic. -/
def readRepetition (part : Expression) : Reader Expression := do
  skipIgnored
  match ← readTimes with
  | none => return part
  | some (least, most) =>
    if !part.isRepeatable then failure
    if most.any (· < least) then failure
    skipIgnored
    let short ← skipIf "?"
    let repeated := Expression.repeated least most (short == (← flags).shortFirst) part
    return if ← skipIf "+" then .atomic repeated else repeated

/-! ## Groups -/

/-- How deep groups may be nested. -/
def depthLimit : Nat := 64

def closeGroup : Reader Unit := do
  if !(← skipIf ")") then failure

/-- Flags up to a colon or a closing parenthesis, which is left; `seen` holds the characters before. -/
def readFlags : Nat → List Char → Reader (List Char)
  | 0, _ => failure
  | fuel + 1, seen => do
    skipIgnored
    match ← rest with
    | [] => failure
    | c :: behind =>
      if c = ':' ∨ c = ')' then return seen
      let on := !seen.contains '-'
      if c = '-' ∨ c = 'u' then
        if !on then failure
      else
        if c = 'R' then failure
        match setFlag (← flags) on c with
        | .ok new => setFlags new
        | .error _ => failure
      setRest behind
      readFlags fuel (c :: seen)

/-- A new group that is counted, perhaps with a name. -/
def openGroup (name : Option String) : Reader Nat := do
  let number := (← get).groups + 1
  modify fun s =>
    { s with groups := number, names := (name.map fun name => (name, number)).toList ++ s.names }
  return number

/-- The branches of a condition. -/
def branches : Expression → Expression × Expression
  | choice (yes :: [no]) => (yes, no)
  | choice (yes :: others) => (yes, choice others)
  | yes => (yes, empty)

mutual

/-- Alternatives, up to the end of the group or of the text. -/
def readChoice (bytes : Nat) : Nat → Nat → Reader Expression
  | 0, _ => failure
  | fuel + 1, depth => do
    let first ← readSequence bytes fuel depth []
    skipIgnored
    if (← rest).head? = some '|' then return .choice (first :: (← readOthers bytes fuel depth))
    let s ← get
    if s.numbered && !s.names.isEmpty then failure
    return first

/-- The alternatives behind the first one. -/
def readOthers (bytes : Nat) : Nat → Nat → Reader (List Expression)
  | 0, _ => failure
  | fuel + 1, depth => do
    skipIgnored
    if !(← skipIf "|") then return []
    let next ← readSequence bytes fuel depth []
    return next :: (← readOthers bytes fuel depth)

/-- Parts one behind the other; those read before come last first. -/
def readSequence (bytes : Nat) : Nat → Nat → List Expression → Reader Expression
  | 0, _, _ => failure
  | fuel + 1, depth, parts => do
    let before := (← rest).length
    let atom ← readAtom bytes fuel depth
    let part ← readRepetition atom
    let parts := if part.isEmpty then parts else part :: parts
    if (← rest).length = before then
      return match parts.reverse with
        | [] => .empty
        | [part] => part
        | parts => .sequence parts
    readSequence bytes fuel depth parts

/-- One part without a repetition; nothing where no part starts. -/
def readAtom (bytes : Nat) : Nat → Nat → Reader Expression
  | 0, _ => failure
  | fuel + 1, depth => do
    skipIgnored
    let flags ← flags
    match ← rest with
    | [] => return .empty
    | '.' :: behind =>
      setRest behind
      return .one (dotSet flags)
    | '^' :: behind =>
      setRest behind
      return .boundary (startBoundary flags)
    | '$' :: behind =>
      setRest behind
      return .boundary (endBoundary flags)
    | '(' :: behind =>
      setRest behind
      if depthLimit ≤ depth + 1 then failure
      skipIgnored
      readGroup bytes fuel (depth + 1)
    | '\\' :: behind =>
      setRest behind
      readEscape bytes
    | '[' :: _ => return .one (← ofPattern readClass).set
    | c :: behind =>
      if "+*?|)".toList.contains c then return .empty
      setRest behind
      return .one (← charSet c)

/-- A group; what is behind its opening parenthesis stands here. -/
def readGroup (bytes : Nat) : Nat → Nat → Reader Expression
  | 0, _ => failure
  | fuel + 1, depth => do
    let inner : Reader Expression := do
      let e ← readChoice bytes fuel depth
      closeGroup
      return e
    let named (behind : List Char) (name : String) : Reader Expression := do
      setRest behind
      let number ← openGroup (some name)
      return .group number (← inner)
    if ← skipIf "?=" then return .look true true (← inner)
    if ← skipIf "?!" then return .look true false (← inner)
    if ← skipIf "?<=" then return .look false true (← inner)
    if ← skipIf "?<!" then return .look false false (← inner)
    let cs ← rest
    if "?<".toList.isPrefixOf cs || "?P<".toList.isPrefixOf cs then
      match (name? "?<".toList ['>'] cs).orElse fun _ => name? "?P<".toList ['>'] cs with
      | some (name, behind) => return (← named behind name)
      | none => failure
    if ← skipIf "?P=" then return .same (← readNamed "" ")")
    if ← skipIf "?>" then return .atomic (← inner)
    if ← skipIf "?(" then return (← readConditional bytes fuel depth)
    if ← skipIf "?" then
      let old ← flags
      let seen ← readFlags ((← rest).length + 1) []
      if ← skipIf ")" then
        if seen = [] ∨ seen = ['-'] then failure
        return .empty
      setRest ((← rest).drop 1)
      if seen = ['-'] then failure
      let e ← inner
      setFlags old
      return e
    let number ← openGroup none
    return .group number (← inner)

/-- A condition with its branches; what is behind its opening parenthesis stands here. -/
def readConditional (bytes : Nat) : Nat → Nat → Reader Expression
  | 0, _ => failure
  | fuel + 1, depth => do
    let test ← match ← rest with
      | '\'' :: _ => pure (Expression.isFound (← readNamed "'" "'"))
      | '<' :: _ => pure (.isFound (← readNamed "<" ">"))
      | c :: _ =>
        if c.isDigit then pure (.isFound (← readNumbered bytes)) else readChoice bytes fuel depth
      | [] => failure
    closeGroup
    let before := (← rest).length
    let inner ← readChoice bytes fuel depth
    let isTest := match test with
      | .isFound _ => true
      | _ => false
    if (← rest).length = before && !isTest then failure
    closeGroup
    let (yes, no) := branches inner
    return if yes.isEmpty && no.isEmpty then test else .conditional test yes no

end

/-- An expression with the number of its groups and those that are referred to. -/
structure Reading where
  expression : Expression
  groups : Nat
  referred : List Nat

/-- The expression that a whole text writes. -/
def read? (d : Dialect) (text : List Char) : Option Reading := do
  let bytes := (text.map Char.utf8Size).foldl (· + ·) 0
  let (e, s) ← ((readChoice bytes (6 * text.length + 8) 0).run d).run ⟨text, plainFlags, 0, [], [], false⟩
  if !s.rest.isEmpty then none
  if s.referred.any fun number => number = 0 || s.groups < number then none
  some ⟨e, s.groups, s.referred⟩

end CatalogGate.Pattern.Expression
