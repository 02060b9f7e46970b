-- Reading anchors, aliases, tags and directives.
import CatalogGate.Decimal.Reading
import CatalogGate.Text.Hex
import CatalogGate.Yaml.Fault
import CatalogGate.Yaml.Token

namespace CatalogGate.Yaml

/-! ## Anchors and aliases -/

/-- What may stand directly behind the name of an anchor. -/
def endsName (c : Char) : Bool :=
  isGap c || c == '?' || c == ':' || c == ',' || c == ']' || c == '}' || c == '%' || c == '@' || c == '\x60'

/-- The name behind `&` or `*`. -/
def readName (context : Context) (gs : List Glyph) : Except Fault (String × List Glyph) :=
  let (name, rest) := spanChars isWord (gs.drop 1)
  if name.isEmpty || !endsName (next rest) then .error (.inside context (here gs) .missingAnchorName rest)
  else .ok (String.ofList name, rest)

/-! ## Tags -/

/-- The characters of a tag; inside angle brackets and in directives a few more. -/
def isTagChar (wide : Bool) (c : Char) : Bool :=
  isWord c || ";/?:@&=+$.%!~*'()".contains c || (wide && (c == ',' || c == '[' || c == ']'))

/-- How many bytes a character takes that starts with this byte. -/
def leadWidth? (byte : Nat) : Option Nat :=
  if byte < 0x80 then some 1
  else if 0xC0 ≤ byte ∧ byte < 0xE0 then some 2
  else if 0xE0 ≤ byte ∧ byte < 0xF0 then some 3
  else if 0xF0 ≤ byte ∧ byte < 0xF8 then some 4
  else none

/-- The byte written as a percent sign and two digits. -/
def escapedByte? (gs : List Glyph) : Option Nat :=
  if next gs == '%' then do
    return 16 * (← Text.hexValue? (peek 1 gs)) + (← Text.hexValue? (peek 2 gs))
  else none

/-- The later bytes of an escaped character. -/
def readTrailBytes (context : Context) (start : Mark) :
    Nat → List UInt8 → List Glyph → Except Fault (List UInt8 × List Glyph)
  | 0, bytes, gs => .ok (bytes.reverse, gs)
  | n + 1, bytes, gs =>
    match escapedByte? gs with
    | none => .error (.inside context start .badUriEscape gs)
    | some b =>
      if 0x80 ≤ b ∧ b < 0xC0 then readTrailBytes context start n (b.toUInt8 :: bytes) (gs.drop 3)
      else .error (.inside context start .badUriTrail gs)

/-- A character written with percent signs. Bytes that encode nothing become the replacement character. -/
def readEscapedChar (context : Context) (start : Mark) (gs : List Glyph) :
    Except Fault (List Char × List Glyph) :=
  match escapedByte? gs with
  | none => .error (.inside context start .badUriEscape gs)
  | some lead =>
    match leadWidth? lead with
    | none => .error (.inside context start .badUriLead gs)
    | some width => do
      let (bytes, rest) ← readTrailBytes context start (width - 1) [lead.toUInt8] (gs.drop 3)
      match Text.decode ⟨bytes.toArray⟩ with
      | .ok cs => return (cs, rest)
      | .error _ => return (['\ufffd'], rest)

def readTagTextFrom (wide : Bool) (context : Context) (start : Mark) :
    Nat → List Char → List Glyph → Except Fault (List Char × List Glyph)
  | 0, read, gs => .ok (read.reverse, gs)
  | fuel + 1, read, gs =>
    if next gs == '%' then do
      let (cs, rest) ← readEscapedChar context start gs
      readTagTextFrom wide context start fuel (cs.reverse ++ read) rest
    else if isTagChar wide (next gs) then
      readTagTextFrom wide context start fuel (next gs :: read) (gs.drop 1)
    else .ok (read.reverse, gs)

/-- The text of a tag behind its handle. It must not be empty unless something was read before it. A character
with the number zero ends it. -/
def readTagText (wide : Bool) (context : Context) (start : Mark) (before : Bool) (gs : List Glyph) :
    Except Fault (List Char × List Glyph) := do
  let (text, rest) ← readTagTextFrom wide context start gs.length [] gs
  if text.isEmpty && !before then throw (.inside context start .missingTagText rest)
  return (text.takeWhile (!isEnd ·), rest)

/-- The handle of a tag: `!`, a word, and in most cases another `!`. -/
def readHandle (start : Mark) (gs : List Glyph) : Except Fault (List Char × List Glyph) :=
  if next gs != '!' then .error (.inside .tag start .missingTagMark gs)
  else
    let (word, rest) := spanChars isWord (gs.drop 1)
    if next rest == '!' then .ok ('!' :: word ++ ['!'], rest.drop 1) else .ok ('!' :: word, rest)

/-- A tag as its handle and suffix. -/
def readTag (inFlow : Bool) (gs : List Glyph) : Except Fault ((String × String) × List Glyph) := do
  let start := here gs
  let (handle, suffix, rest) ←
    if peek 1 gs == '<' then do
      let (text, rest) ← readTagText true .tagText start false (gs.drop 2)
      if next rest != '>' then throw (.inside .tag start .missingTagEnd rest)
      pure ([], text, rest.drop 1)
    else do
      let (handle, rest) ← readHandle start gs
      if 1 < handle.length && handle.getLast? == some '!' then
        let (text, rest) ← readTagText false .tagText start false rest
        pure (handle, text, rest)
      else
        let (text, rest) ← readTagText false .tagText start true rest
        let suffix := handle.drop 1 ++ text
        pure (if suffix.isEmpty then ([], ['!'], rest) else (['!'], suffix, rest))
  if !isGap (next rest) && !(inFlow && next rest == ',') then
    throw (.inside .tag start .missingWhitespaceOrBreak rest)
  return ((String.ofList handle, String.ofList suffix), rest)

/-! ## Directives -/

/-- A number of a version, of at most nine digits. -/
def readVersionNumber (start : Mark) (gs : List Glyph) : Except Fault (Nat × List Glyph) :=
  let (digits, rest) := spanChars Char.isDigit gs
  if 9 < digits.length then .error (.inside .versionDirective start .longVersion (gs.drop 9))
  else if digits.isEmpty then .error (.inside .versionDirective start .missingVersion rest)
  else .ok (Decimal.natOfDigits digits, rest)

def readVersion (start : Mark) (gs : List Glyph) : Except Fault (Token.Kind × List Glyph) := do
  let (major, rest) ← readVersionNumber start (skipBlanks gs)
  if next rest != '.' then throw (.inside .versionDirective start .missingVersionDigit rest)
  let (minor, rest) ← readVersionNumber start (rest.drop 1)
  return (.version major minor, rest)

/-- The handle that a directive defines has to end with `!`. -/
def readDirectiveHandle (start : Mark) (gs : List Glyph) : Except Fault (List Char × List Glyph) :=
  if next gs != '!' then .error (.inside .tagDirectiveHandle start .missingTagMark gs)
  else
    let (word, rest) := spanChars isWord (gs.drop 1)
    if next rest == '!' then .ok ('!' :: word ++ ['!'], rest.drop 1)
    else if word.isEmpty then .ok (['!'], rest)
    else .error (.inside .tagDirectiveMark start .missingTagMark rest)

def readTagPrefix (start : Mark) (gs : List Glyph) : Except Fault (Token.Kind × List Glyph) := do
  let (handle, rest) ← readDirectiveHandle start (skipBlanks gs)
  if !isBlank (next rest) then throw (.inside .tagDirectiveLine start .missingWhitespace rest)
  let (text, rest) ← readTagText true .tagDirectiveText start false (skipBlanks rest)
  if !isGap (next rest) then throw (.inside .tagDirectiveLine start .missingWhitespaceOrBreak rest)
  return (.tagPrefix (String.ofList handle) (String.ofList text), rest)

/-- A directive and the rest of its line. -/
def readDirective (gs : List Glyph) : Except Fault (Token.Kind × List Glyph) := do
  let start := here gs
  let (name, rest) := spanChars isWord (gs.drop 1)
  if name.isEmpty then throw (.inside .directive start .missingDirectiveName rest)
  if !isGap (next rest) then throw (.inside .directive start .badDirectiveName rest)
  let (kind, rest) ←
    if name == "YAML".toList then readVersion start rest
    else if name == "TAG".toList then readTagPrefix start rest
    else throw (.inside .directive start .unknownDirective rest)
  let rest := skipBlanks rest
  let rest := if next rest == '#' then skipLineRest rest else rest
  if !isBreakOrEnd (next rest) then throw (.inside .directive start .missingLineEnd rest)
  return (kind, skipBreak rest)

end CatalogGate.Yaml
