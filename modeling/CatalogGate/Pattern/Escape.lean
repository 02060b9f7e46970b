-- What a backslash in a pattern and the text behind it mean.
import CatalogGate.Pattern.Basic
import CatalogGate.Pattern.Source
import CatalogGate.Text.Hex

namespace CatalogGate.Pattern

open Reader

/-- A character, a set of them or a boundary. -/
inductive Item where
  | char (c : Char)
  | set (s : CharSet)
  | boundary (b : Boundary)
deriving Repr, DecidableEq

/-! ## Code points -/

def charOfHex? (digits : List Char) : Option Char := do
  let n ← digits.foldlM (fun n c => do return 16 * n + (← Text.hexValue? c)) 0
  if n.isValidChar then some (Char.ofNat n) else none

/-- Digits up to a closing brace, behind those read before, which come last first. -/
def readHexBraced : Nat → List Char → Reader (List Char)
  | 0, _ => throw .bracedHexUnclosed
  | fuel + 1, digits => do
    next
    match ← char? with
    | none => throw .bracedHexUnclosed
    | some c =>
      if c = '\x7d' then
        next
        return digits.reverse
      if (Text.hexValue? c).isNone then throw .bracedHexInvalidDigit
      readHexBraced fuel (c :: digits)

/-- So many digits; the first one stands here. -/
def readHexFixed : Nat → List Char → Reader (List Char)
  | 0, digits => return digits.reverse
  | n + 1, digits => do
    match ← char? with
    | none => throw .fixedHexUnclosed
    | some c =>
      if (Text.hexValue? c).isNone then throw .fixedHexInvalidDigit
      next
      readHexFixed n (c :: digits)

/-- The character whose code point follows the letter that stands here. -/
def readHex (length : Nat) : Reader Char := do
  nextOr .hexAtEnd
  if (← char?) = some '\x7b' then
    let digits ← readHexBraced ((← get).rest.length + 1) []
    if digits.isEmpty then throw .bracedHexEmpty
    match charOfHex? digits with
    | some c => return c
    | none => throw .bracedHexNoCharacter
  match charOfHex? (← readHexFixed length []) with
  | some c => return c
  | none => throw .fixedHexNoCharacter

/-- How many digits a code point has behind a letter. -/
def hexLength? (c : Char) : Option Nat :=
  match c with
  | 'x' => some 2
  | 'u' => some 4
  | 'U' => some 8
  | _ => none

/-! ## Boundaries -/

def isNamePart (c : Char) : Bool := c.isAlpha || c == '-'

/-- The letters and dashes of the name of a boundary. -/
def readBoundaryName : Nat → List Char → Reader (List Char)
  | 0, name => return name.reverse
  | fuel + 1, name => do
    match ← char? with
    | some c =>
      if isNamePart c then
        next
        readBoundaryName fuel (c :: name)
      else return name.reverse
    | none => return name.reverse

/-- The boundary whose name follows in braces, if it is not a count that follows. -/
def readNamedBoundary : Reader (Option Boundary) := do
  let start := (← get).rest
  nextOr .wordBoundaryAtEnd
  if !(← char?).any isNamePart then
    setRest start
    return none
  let name ← readBoundaryName start.length []
  if (← char?) ≠ some '\x7d' then throw .wordBoundaryUnclosed
  skip 1
  match String.ofList name with
  | "start" => return some .wordStart
  | "end" => return some .wordEnd
  | "start-half" => return some .behindNonWord
  | "end-half" => return some .beforeNonWord
  | _ => throw .wordBoundaryUnknown

/-! ## Sets -/

/-- The set that a letter behind a backslash names. A capital letter stands for all other characters. -/
def namedSet? (d : Dialect) (flags : Flags) (c : Char) : Option CharSet :=
  let folded := fun (s : CharSet) => if d.wide then d.fold flags s else s
  match c with
  | 'd' => some (folded d.digits)
  | 's' => some (folded d.blanks)
  | 'w' => some (folded d.words)
  | 'D' => some (.complement (folded d.digits))
  | 'S' => some (.complement (folded d.blanks))
  | 'W' => some (.complement (folded d.words))
  | _ => none

/-- The text before a mark and the text behind it, if there is such a mark. -/
def splitAtMark? (mark : List Char) : List Char → Option (List Char × List Char)
  | [] => none
  | c :: rest =>
    if mark.isPrefixOf (c :: rest) then some ([], (c :: rest).drop mark.length)
    else (splitAtMark? mark rest).map fun (before, behind) => (c :: before, behind)

/-- The characters with a property. Between the name of a property and its value stands a colon, or an
equals sign; an exclamation mark before that turns the property into its opposite. -/
def propertySet? (name : List Char) : Option CharSet :=
  let valued := fun (parts : List Char × List Char) =>
    Unicode.Property.ofValue? (String.ofList parts.1) (String.ofList parts.2)
  match splitAtMark? "!=".toList name with
  | some parts => (valued parts).map CharSet.complement
  | none =>
    match (splitAtMark? [':'] name).orElse fun _ => splitAtMark? ['='] name with
    | some parts => valued parts
    | none => Unicode.Property.ofName? (String.ofList name)

/-- The name of a property: one character, or several between braces. It stands behind this place. -/
def readPropertyName : Reader (List Char) := do
  nextOr .escapeAtEnd
  match (← get).rest with
  | '\x7b' :: rest =>
    let name := rest.takeWhile (· ≠ '\x7d')
    if name.length = rest.length then throw .escapeAtEnd
    setRest (rest.drop (name.length + 1))
    return name
  | '\\' :: _ => throw .unicodeClass
  | c :: rest =>
    setRest rest
    return [c]
  | [] => throw .escapeAtEnd

/-- The characters with the property that is named behind this letter, or those without it. -/
def readProperty (negated : Bool) : Reader CharSet := do
  let flags ← flags
  let name ← readPropertyName
  match propertySet? name with
  | some s =>
    let folded := (← read).fold flags s
    return if negated then .complement folded else folded
  | none => throw .unicodeClass

/-! ## Escapes -/

/-- The control character that a letter behind a backslash names. -/
def namedChar? (c : Char) : Option Char :=
  match c with
  | 'a' => some '\x07'
  | 'f' => some '\x0c'
  | 't' => some '\t'
  | 'n' => some '\n'
  | 'r' => some '\r'
  | 'v' => some '\x0b'
  | _ => none

/-- Whether a backslash before a character makes it stand for itself. -/
def isEscapable (c : Char) : Bool := c.toNat < 0x80 && !c.isAlphanum && c != '<' && c != '>'

/-- What a backslash, which stands here, and the text behind it mean. -/
def readEscape : Reader Item := do
  skip 1
  let d ← read
  let behind := (← get).rest
  match behind.head? with
  | none => throw .escapeAtEnd
  | some c =>
    if c.isDigit then throw .backreference
    if c = 'p' ∨ c = 'P' then
      if d.wide then return .set (← readProperty (c = 'P'))
      throw .unicodeClass
    match hexLength? c, namedSet? d (← flags) c with
    | some length, _ => return .char (← readHex length)
    | _, some named =>
      skip 1
      return .set named
    | _, _ =>
      skip 1
      if isEscapable c then return .char c
      match namedChar? c with
      | some named => return .char named
      | none =>
        match c with
        | 'A' => return .boundary .textStart
        | 'z' => return .boundary .textEnd
        | 'b' =>
          if (← char?) = some '\x7b' then return .boundary ((← readNamedBoundary).getD .word)
          return .boundary .word
        | 'B' => return .boundary .notWord
        | '<' => return .boundary .wordStart
        | '>' => return .boundary .wordEnd
        | _ => throw (.unknownEscape behind)

end CatalogGate.Pattern
