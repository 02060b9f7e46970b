-- Reading the three kinds of scalars: plain, quoted and block. Each reader takes the glyphs from the
-- first one of the scalar on and returns its text with the glyphs behind it. Their fuel is a number
-- that is not less than the number of glyphs, which the caller knows without counting them.
import CatalogGate.Text.Hex
import CatalogGate.Yaml.Fault
import CatalogGate.Yaml.Token

namespace CatalogGate.Yaml

/-! ## Blanks and line breaks inside a scalar -/

/-- What stands between two words of a scalar. -/
structure Gap where
  /-- Blanks before any line break, newest first. -/
  blanks : List Char := []
  firstBreak : Option Char := none
  /-- Further line breaks, newest first. -/
  moreBreaks : List Char := []
  /-- Whether a line ended here. -/
  broken : Bool := false

/-- Folding: one new line is a space, and of several the first disappears. -/
def Gap.text (g : Gap) : List Char :=
  if g.broken then
    if g.firstBreak = some '\n' then
      if g.moreBreaks.isEmpty then [' '] else g.moreBreaks.reverse
    else g.firstBreak.toList ++ g.moreBreaks.reverse
  else g.blanks.reverse

/-- Reads a gap. After a line break a tab must not stand left of column `limit`. -/
def readGap (limit : Nat) (start : Mark) (gap : Gap) : List Glyph → Except Fault (Gap × List Glyph)
  | [] => .ok (gap, [])
  | g :: rest =>
    if isBlank g.char then
      if gap.broken then
        if g.char == '\t' && g.mark.column < limit then
          .error (.inside .plainScalar start .tabBelowIndent (g :: rest))
        else readGap limit start gap rest
      else readGap limit start { gap with blanks := g.char :: gap.blanks } rest
    else if isBreak g.char then
      if gap.broken then readGap limit start { gap with moreBreaks := g.char :: gap.moreBreaks } rest
      else readGap limit start { gap with blanks := [], firstBreak := some g.char, broken := true } rest
    else .ok (gap, g :: rest)

/-! ## Plain scalars -/

def isFlowIndicator (c : Char) : Bool := c == ',' || c == '[' || c == ']' || c == '{' || c == '}'

/-- A word of a plain scalar, with what was read before newest first. A colon ends it before a gap. -/
def readPlainWord (inFlow : Bool) (start : Mark) (read : List Char) :
    List Glyph → Except Fault (List Char × List Glyph)
  | [] => .ok (read, [])
  | g :: rest =>
    if isGap g.char then .ok (read, g :: rest)
    else if inFlow && g.char == ':' && (next rest == '?' || isFlowIndicator (next rest)) then
      .error (.inside .plainScalar start .colonInFlow (g :: rest))
    else if g.char == ':' && isGap (next rest) then .ok (read, g :: rest)
    else if inFlow && isFlowIndicator g.char then .ok (read, g :: rest)
    else readPlainWord inFlow start (g.char :: read) rest

/-- Words and gaps in turn. The flag tells whether the scalar was followed by the end of a line. -/
def readPlainFrom (inFlow : Bool) (indent : Int) (start : Mark) :
    Nat → List Char → Gap → List Glyph → Except Fault (List Char × Bool × List Glyph)
  | 0, read, gap, gs => .ok (read, gap.broken, gs)
  | fuel + 1, read, gap, gs =>
    if isDocumentMark '-' gs || isDocumentMark '.' gs || next gs == '#' then .ok (read, gap.broken, gs)
    else do
      let (word, rest) ← readPlainWord inFlow start [] gs
      if word.isEmpty then return (read, gap.broken, rest)
      let read := word ++ gap.text.reverse ++ read
      if isBlank (next rest) || isBreak (next rest) then
        let (gap, rest) ← readGap (indent + 1).toNat start {} rest
        if !inFlow && ((here rest).column : Int) < indent + 1 then return (read, gap.broken, rest)
        readPlainFrom inFlow indent start fuel read gap rest
      else return (read, false, rest)

def readPlain (fuel : Nat) (inFlow : Bool) (indent : Int) (gs : List Glyph) :
    Except Fault (String × Bool × List Glyph) := do
  let (read, broken, rest) ← readPlainFrom inFlow indent (here gs) fuel [] {} gs
  return (String.ofList read.reverse, broken, rest)

/-! ## Quoted scalars -/

/-- The character that a letter behind a backslash stands for. -/
def escaped? : Char → Option Char
  | '0' => some '\x00'
  | 'a' => some '\x07'
  | 'b' => some '\x08'
  | 't' => some '\t'
  | '\t' => some '\t'
  | 'n' => some '\n'
  | 'v' => some '\x0b'
  | 'f' => some '\x0c'
  | 'r' => some '\r'
  | 'e' => some '\x1b'
  | ' ' => some ' '
  | '"' => some '"'
  | '/' => some '/'
  | '\\' => some '\\'
  | 'N' => some '\u0085'
  | '_' => some '\u00a0'
  | 'L' => some '\u2028'
  | 'P' => some '\u2029'
  | _ => none

/-- How many hexadecimal digits follow a letter behind a backslash. -/
def escapeWidth? : Char → Option Nat
  | 'x' => some 2
  | 'u' => some 4
  | 'U' => some 8
  | _ => none

/-- The code point that digits write. -/
def codePoint? (digits : List Char) : Option Nat :=
  digits.foldl (fun n d => do return 16 * (← n) + (← Text.hexValue? d)) (some 0)

/-- The character of an escape, from the letter behind the backslash on. -/
def readEscape (start : Mark) (whole : List Glyph) : List Glyph → Except Fault (Char × List Glyph)
  | [] => .error (.inside .quotedEscape start .unknownEscape whole)
  | g :: rest =>
    match escaped? g.char, escapeWidth? g.char with
    | some c, _ => .ok (c, rest)
    | none, none => .error (.inside .quotedEscape start .unknownEscape whole)
    | none, some width =>
      match codePoint? ((rest.take width).map Glyph.char) with
      | none => .error (.inside .quotedEscape start .missingHexDigit rest)
      | some n =>
        if (0xD800 ≤ n && n ≤ 0xDFFF) || 0x10FFFF < n then
          .error (.inside .quotedEscape start .badCodePoint rest)
        else .ok (Char.ofNat n, rest.drop width)

/-- A run of a quoted scalar up to a gap, the end or the closing quote, with what was read before newest
first. The flag tells whether the run ended with an escaped line break. -/
def readQuotedRun (single : Bool) (start : Mark) :
    Nat → List Char → List Glyph → Except Fault (List Char × Bool × List Glyph)
  | 0, read, gs => .ok (read, false, gs)
  | _, read, [] => .ok (read, false, [])
  | fuel + 1, read, g :: rest =>
    if isGap g.char then .ok (read, false, g :: rest)
    else if single then
      if g.char == '\'' then
        if next rest == '\'' then readQuotedRun single start fuel ('\'' :: read) (rest.drop 1)
        else .ok (read, false, g :: rest)
      else readQuotedRun single start fuel (g.char :: read) rest
    else if g.char == '"' then .ok (read, false, g :: rest)
    else if g.char == '\\' then
      if isBreak (next rest) then .ok (read, true, rest.drop 1)
      else do
        let (c, rest) ← readEscape start (g :: rest) rest
        readQuotedRun single start fuel (c :: read) rest
    else readQuotedRun single start fuel (g.char :: read) rest

/-- Runs and gaps in turn up to the closing quote. -/
def readQuotedFrom (single : Bool) (start : Mark) :
    Nat → List Char → List Glyph → Except Fault (List Char × List Glyph)
  | 0, _, gs => .error (.inside .quotedScalar start .endOfStream gs)
  | fuel + 1, read, gs =>
    if isDocumentMark '-' gs || isDocumentMark '.' gs then
      .error (.inside .quotedScalar start .documentMarkInside gs)
    else if isEnd (next gs) then .error (.inside .quotedScalar start .endOfStream gs)
    else do
      let (read, escapedBreak, rest) ← readQuotedRun single start (fuel + 1) read gs
      if next rest == (if single then '\'' else '"') then return (read, rest.drop 1)
      let (gap, rest) ← readGap 0 start { broken := escapedBreak } rest
      readQuotedFrom single start fuel (gap.text.reverse ++ read) rest

def readQuoted (fuel : Nat) (single : Bool) (gs : List Glyph) :
    Except Fault (String × List Glyph) := do
  let (read, rest) ← readQuotedFrom single (here gs) (fuel + 1) [] (gs.drop 1)
  return (String.ofList read.reverse, rest)

/-! ## Block scalars -/

/-- What becomes of the line breaks at the end of a block scalar. -/
inductive Chomping where
  | strip
  | clip
  | keep
deriving Repr, DecidableEq

def chomping? : Char → Option Chomping
  | '-' => some .strip
  | '+' => some .keep
  | _ => none

/-- One line of a block scalar with the break that ends it and the empty lines behind it. -/
structure BlockLine where
  content : List Char
  lineBreak : Option Char
  emptyLines : List Char

/-- The indicators behind `|` or `>` in either order: chomping, and the indent relative to the parent. -/
def readBlockHeader (start : Mark) (gs : List Glyph) :
    Except Fault (Chomping × Option Nat × List Glyph) :=
  let digit? (gs : List Glyph) : Except Fault (Option Nat × List Glyph) :=
    let c := next gs
    if c == '0' then .error (.inside .blockScalar start .zeroIndent gs)
    else if c.isDigit then .ok (some (c.toNat - '0'.toNat), gs.drop 1)
    else .ok (none, gs)
  match chomping? (next gs) with
  | some c => do
    let (indent, rest) ← digit? (gs.drop 1)
    return (c, indent, rest)
  | none => do
    let (indent, rest) ← digit? gs
    if indent.isSome then
      match chomping? (next rest) with
      | some c => return (c, indent, rest.drop 1)
      | none => return (.clip, indent, rest)
    else return (.clip, none, rest)

/-- Empty lines and the indent of the line behind them, with the breaks read before newest first and
the deepest column seen. An `indent` of zero is not known yet. -/
def readEmptyLines (indent : Nat) (start : Mark) (deepest : Nat) (breaks : List Char) :
    List Glyph → Except Fault (List Char × Nat × List Glyph)
  | [] => .ok (breaks.reverse, deepest, [])
  | g :: rest =>
    let inIndent := indent == 0 || g.mark.column < indent
    if inIndent && g.char == ' ' then readEmptyLines indent start deepest breaks rest
    else
      let deepest := max deepest g.mark.column
      if inIndent && g.char == '\t' then .error (.inside .blockScalar start .tabInIndent (g :: rest))
      else if isBreak g.char then readEmptyLines indent start deepest (g.char :: breaks) rest
      else .ok (breaks.reverse, deepest, g :: rest)

/-- The lines at the indent, oldest first behind those read before. -/
def readBlockLines (indent : Nat) (start : Mark) :
    Nat → List BlockLine → List Glyph → Except Fault (List BlockLine × List Glyph)
  | 0, lines, gs => .ok (lines.reverse, gs)
  | fuel + 1, lines, gs =>
    if (here gs).column == indent && !isEnd (next gs) then do
      let (content, rest) := spanChars (!isBreakOrEnd ·) gs
      let lineBreak := if isBreak (next rest) then some (next rest) else none
      let (emptyLines, _, rest) ← readEmptyLines indent start 0 [] (skipBreak rest)
      readBlockLines indent start fuel (⟨content, lineBreak, emptyLines⟩ :: lines) rest
    else .ok (lines.reverse, gs)

/-- Puts the lines together, newest character first. A folded scalar joins two lines that both start
with a word: by a space, or by the empty lines between them. -/
def joinLines (folded : Bool) (chomping : Chomping) (read : List Char) (leading : Option Char)
    (leadingBlank : Bool) (empty : List Char) : List BlockLine → List Char
  | [] =>
    match chomping with
    | .strip => read
    | .clip => leading.toList ++ read
    | .keep => empty.reverse ++ leading.toList ++ read
  | line :: rest =>
    let blank := (line.content.head?.map isBlank).getD false
    let read :=
      if folded && leading == some '\n' && !leadingBlank && !blank then
        if empty.isEmpty then ' ' :: read else read
      else leading.toList ++ read
    joinLines folded chomping (line.content.reverse ++ (empty.reverse ++ read)) line.lineBreak blank
      line.emptyLines rest

/-- A block scalar inside a collection at column `parent`, which is `-1` outside of any. -/
def readBlock (fuel : Nat) (folded : Bool) (parent : Int) (gs : List Glyph) :
    Except Fault (String × List Glyph) := do
  let start := here gs
  let (chomping, increment, rest) ← readBlockHeader start (gs.drop 1)
  let rest := skipBlanks rest
  let rest := if next rest == '#' then skipLineRest rest else rest
  if !isBreakOrEnd (next rest) then throw (.inside .blockScalar start .missingLineEnd rest)
  let known := match increment with
    | some n => (if 0 ≤ parent then parent.toNat else 0) + n
    | none => 0
  let (empty, deepest, rest) ← readEmptyLines known start 0 [] (skipBreak rest)
  let indent := if known = 0 then max (max deepest (parent + 1).toNat) 1 else known
  let (lines, rest) ← readBlockLines indent start fuel [] rest
  return (String.ofList (joinLines folded chomping [] none false empty lines).reverse, rest)

end CatalogGate.Yaml
