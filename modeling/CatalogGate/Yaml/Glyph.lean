-- The characters of a YAML text with their places. Every line break is one glyph, however it is
-- written, and the end of the text is a glyph too.
import CatalogGate.Text.Utf8

namespace CatalogGate.Yaml

/-- A place in a text: the bytes before it, the lines before it and the characters before it on its
line. -/
structure Mark where
  index : Nat
  line : Nat
  column : Nat
deriving Repr, DecidableEq, Inhabited

def Mark.start : Mark := ⟨0, 0, 0⟩

/-- Lines and columns are counted from one where they are shown. -/
def Mark.text (m : Mark) : String := s!"line {m.line + 1} column {m.column + 1}"

/-- A mark at the very start is not worth showing. -/
def Mark.isStart (m : Mark) : Bool := m.line == 0 && m.column == 0

structure Glyph where
  char : Char
  mark : Mark
deriving Inhabited

/-- The glyph after the last character. No text that is read holds this character itself. -/
def endChar : Char := '\x00'

def isEnd (c : Char) : Bool := c == endChar

/-- Line breaks as they stand in glyphs: all forms of a new line are `\n`, and the two separators of
Unicode stand for themselves. -/
def isBreak (c : Char) : Bool := c == '\n' || c == '\u2028' || c == '\u2029'

def isBlank (c : Char) : Bool := c == ' ' || c == '\t'

def isBreakOrEnd (c : Char) : Bool := isBreak c || isEnd c

/-- What may stand behind an indicator. -/
def isGap (c : Char) : Bool := isBlank c || isBreakOrEnd c

/-- Letters, digits, `-` and `_`. -/
def isWord (c : Char) : Bool := c.isAlphanum || c == '-' || c == '_'

/-! ## From text to glyphs -/

/-- The characters YAML allows in a text. -/
def isPrintable (c : Char) : Bool :=
  let n := c.toNat
  n == 0x09 || n == 0x0A || n == 0x0D || (0x20 ≤ n && n ≤ 0x7E) || n == 0x85
    || (0xA0 ≤ n && n ≤ 0xD7FF) || (0xE000 ≤ n && n ≤ 0xFFFD) || 0x10000 ≤ n

/-- The bytes before the first character that YAML does not allow. -/
def firstUnprintable? (index : Nat) : List Char → Option Nat
  | [] => none
  | c :: rest => if isPrintable c then firstUnprintable? (index + c.utf8Size) rest else some index

def Mark.afterBreak (m : Mark) (width : Nat) : Mark := ⟨m.index + width, m.line + 1, 0⟩

def Mark.afterChar (m : Mark) (c : Char) : Mark := ⟨m.index + c.utf8Size, m.line, m.column + 1⟩

/-- The glyphs of the text from a mark on, behind those read before, which come newest first. -/
def glyphsFrom (mark : Mark) (read : List Glyph) : List Char → List Glyph
  | [] => (⟨endChar, mark⟩ :: read).reverse
  | '\r' :: '\n' :: rest => glyphsFrom (mark.afterBreak 2) (⟨'\n', mark⟩ :: read) rest
  | c :: rest =>
    if c = '\r' ∨ c = '\n' ∨ c = '\u0085' then
      glyphsFrom (mark.afterBreak c.utf8Size) (⟨'\n', mark⟩ :: read) rest
    else if isBreak c then glyphsFrom (mark.afterBreak c.utf8Size) (⟨c, mark⟩ :: read) rest
    else glyphsFrom (mark.afterChar c) (⟨c, mark⟩ :: read) rest

def glyphs (text : List Char) : List Glyph := glyphsFrom .start [] text

/-! ## Looking ahead -/

/-- The place of the next glyph. -/
def here : List Glyph → Mark
  | g :: _ => g.mark
  | [] => .start

/-- The next character. -/
def next : List Glyph → Char
  | g :: _ => g.char
  | [] => endChar

/-- The character `n` places behind the next one. -/
def peek (n : Nat) (gs : List Glyph) : Char := next (gs.drop n)

/-- The characters at the front that satisfy a test, and the glyphs behind them. -/
def spanChars (p : Char → Bool) (gs : List Glyph) : List Char × List Glyph :=
  ((gs.takeWhile (p ·.char)).map Glyph.char, gs.dropWhile (p ·.char))

def skipBlanks (gs : List Glyph) : List Glyph := gs.dropWhile (isBlank ·.char)

/-- Everything up to the end of the line. -/
def skipLineRest (gs : List Glyph) : List Glyph := gs.dropWhile (!isBreakOrEnd ·.char)

/-- A line break that stands here, left behind. -/
def skipBreak : List Glyph → List Glyph
  | g :: rest => if isBreak g.char then rest else g :: rest
  | [] => []

/-- Whether a line starts here with three of a character and a gap, the mark between documents. -/
def isDocumentMark (c : Char) (gs : List Glyph) : Bool :=
  (here gs).column == 0 && next gs == c && peek 1 gs == c && peek 2 gs == c && isGap (peek 3 gs)

end CatalogGate.Yaml
