-- How texts and tags are spelled in YAML: as they are, in quotes, or as a block of lines.
import CatalogGate.Yaml.Node

namespace CatalogGate.Yaml

/-- The ways to write a text, from the plainest on. -/
inductive Spelling where
  | plain
  | singleQuoted
  | doubleQuoted
  | literal
deriving Repr, DecidableEq

namespace Spelling

/-! ## Characters -/

/-- Whether a character is written as it is, and not by its number. -/
def isShown (c : Char) : Bool :=
  let n := c.toNat
  n == 0x0A || (0x20 ≤ n && n ≤ 0x7E) || (0xA0 ≤ n && n ≤ 0xD7FF) || (0xE000 ≤ n && n ≤ 0xFFFD && n != 0xFEFF)

/-- Whether a line ends behind a character. -/
def endsLine (c : Char) : Bool := isBreak c || c == '\r' || c == '\u0085'

/-- What sets marks apart: blanks, the ends of lines, and the end of the text. -/
def isApart (c : Option Char) : Bool := c.all fun c => isBlank c || endsLine c || isEnd c

/-- Characters with a meaning of their own at the start of a text. -/
def isIndicator (c : Char) : Bool := "#,[]\x7b\x7d&*!|>'\"%@\x60".contains c

/-! ## Choosing -/

/-- The characters of a text with those behind them. -/
def withNext (cs : List Char) : List (Char × Option Char) := cs.zip ((cs.drop 1).map some ++ [none])

/-- Whether a text would be read as anything else but a text. -/
def isMisleading (cs : List Char) : Bool :=
  ["---".toList, "...".toList].contains (cs.take 3)
    || (match cs with
      | c :: rest => isIndicator c || ("?:-".contains c && isApart rest.head?)
      | [] => false)
    || (withNext cs).any (fun (c, d) => c == ':' && isApart d)
    || (withNext cs).any fun (c, d) => isApart (some c) && d == some '#'

def isPlain (cs : List Char) : Bool :=
  cs.head? != some ' ' && cs.getLast? != some ' ' && !isMisleading cs && cs.all fun c => isShown c && !endsLine c

/-- Whether a blank stands before the end of a line. -/
def hasBlankLineEnd (cs : List Char) : Bool := (withNext cs).any fun (c, d) => c == ' ' && d.any endsLine

def isSingleQuoted (cs : List Char) : Bool :=
  cs.all isShown && !hasBlankLineEnd cs && !(withNext cs).any fun (c, d) => endsLine c && d == some ' '

def isLiteral (cs : List Char) : Bool := cs.all isShown && !hasBlankLineEnd cs && cs.getLast? != some ' '

/-- Whether a text without quotes would be a value of another kind, or nearly. -/
def isAmbiguous (s : String) : Bool :=
  match Scalar.ofPlain s with
  | .text _ => Scalar.isPaddedNumber s.toList
  | _ => true

/-- The plainest way that says exactly this text. -/
def ofText (s : String) : Spelling :=
  let cs := s.toList
  if cs.contains '\n' then (if isLiteral cs then literal else doubleQuoted)
  else if !isAmbiguous s && isPlain cs then plain
  else if isSingleQuoted cs then singleQuoted
  else doubleQuoted

/-! ## Writing -/

/-- A character by its name or number. -/
def escaped (c : Char) : List Char :=
  let number (mark : Char) (width : Nat) : List Char :=
    let digits := (Nat.toDigits 16 c.toNat).map Char.toUpper
    '\\' :: mark :: List.replicate (width - digits.length) '0' ++ digits
  match c with
  | '\x00' => ['\\', '0']
  | '\x07' => ['\\', 'a']
  | '\x08' => ['\\', 'b']
  | '\t' => ['\\', 't']
  | '\n' => ['\\', 'n']
  | '\x0b' => ['\\', 'v']
  | '\x0c' => ['\\', 'f']
  | '\r' => ['\\', 'r']
  | '\x1b' => ['\\', 'e']
  | '"' => ['\\', '"']
  | '\\' => ['\\', '\\']
  | '\u0085' => ['\\', 'N']
  | '\u00a0' => ['\\', '_']
  | '\u2028' => ['\\', 'L']
  | '\u2029' => ['\\', 'P']
  | _ =>
    if c.toNat ≤ 0xFF then number 'x' 2
    else if c.toNat ≤ 0xFFFF then number 'u' 4
    else number 'U' 8

def quote (cs : List Char) : List Char :=
  '"' :: cs.flatMap (fun c => if isShown c && !endsLine c && c != '"' && c != '\\' then [c] else escaped c) ++ ['"']

/-- A text with blanks in front of every line that is not empty. -/
def indented (blanks : List Char) (lineStarts : Bool) : List Char → List Char
  | [] => []
  | c :: rest =>
    if endsLine c then c :: indented blanks true rest
    else (if lineStarts then blanks else []) ++ c :: indented blanks false rest

def singleQuote (blanks cs : List Char) : List Char :=
  '\'' :: (indented blanks false cs).flatMap (fun c => if c = '\'' then ['\'', '\''] else [c]) ++ ['\'']

/-- What stands above a block of lines: whether its first line says nothing of the indentation, and what is to
become of line ends behind the last line. -/
def literalHead (cs : List Char) : List Char :=
  let hint := if cs.head?.any fun c => c == ' ' || endsLine c then ['2'] else []
  let ending := match cs.reverse with
    | [_] => ['+']
    | c :: d :: _ => if !endsLine c then ['-'] else if endsLine d then ['+'] else []
    | [] => []
  '|' :: hint ++ ending

/-- The lines of a block. -/
def literalLines (blanks cs : List Char) : List String :=
  let lines := (indented blanks true cs).splitOn '\n'
  ((if cs.getLast? = some '\n' then lines.dropLast else lines).map String.ofList)

/-! ## Tags -/

def isTagChar (c : Char) : Bool := isWord c || ";/?:@&=+$,.~*'()[]".contains c

/-- The bytes of a character, each as a percent sign and two digits. -/
def escapedBytes (c : Char) : List Char :=
  (String.singleton c).toUTF8.toList.flatMap fun b =>
    let digits := (Nat.toDigits 16 b.toNat).map Char.toUpper
    '%' :: List.replicate (2 - digits.length) '0' ++ digits

def tagChars (cs : List Char) : List Char := cs.flatMap fun c => if isTagChar c then [c] else escapedBytes c

/-- A tag with its mark. The mark alone stands in angle brackets. -/
def tagText (tag : String) : String :=
  match tag.toList with
  | ['!'] => "!<" ++ String.ofList (tagChars ['!']) ++ ">"
  | '!' :: rest => "!" ++ String.ofList (tagChars rest)
  | cs => "!" ++ String.ofList (tagChars cs)

/-- The size of a tag as far as it counts for the length of a key. -/
def tagSize (tag : String) : Nat := if tag.startsWith "!" then tag.utf8ByteSize else tag.utf8ByteSize + 1

end Spelling

end CatalogGate.Yaml
