-- The tokens of a whole YAML text. Block structure is read off the columns, and a token that turns out
-- to be a key, because a colon follows it, gets its key token in front afterwards.
import CatalogGate.Yaml.Token.Property
import CatalogGate.Yaml.Token.Scalar

namespace CatalogGate.Yaml

/-- A token that is a key if a colon follows it in time. -/
structure KeyCandidate where
  /-- How many tokens stand before it. -/
  number : Nat
  mark : Mark
  /-- It stands where the block it is in needs a key. -/
  required : Bool

/-- Where the reading of tokens stands. -/
structure Reading where
  rest : List Glyph
  /-- The tokens so far, newest first. -/
  tokens : List Token
  count : Nat
  /-- The column of the innermost block, `-1` outside of any, and the columns around it. -/
  indent : Int
  indents : List Int
  keyAllowed : Bool
  /-- The candidate of the current flow level and those of the levels around it. -/
  candidate : Option KeyCandidate
  outer : List (Option KeyCandidate)

/-- The tokens that could be read, and what was wrong with the rest. -/
structure TokenStream where
  tokens : List Token
  fault : Option Fault

namespace Reading

def ofGlyphs (gs : List Glyph) : Reading := ⟨gs, [], 0, -1, [], true, none, []⟩

def inFlow (r : Reading) : Bool := !r.outer.isEmpty

def mark (r : Reading) : Mark := here r.rest

def fail (r : Reading) (problem : Problem) : Fault := ⟨problem, r.mark, none⟩

def emit (r : Reading) (kind : Token.Kind) (start stop : Mark) : Reading :=
  { r with tokens := ⟨kind, start, stop⟩ :: r.tokens, count := r.count + 1 }

/-- Puts a token in front of the one with this number. -/
def insert (r : Reading) (number : Nat) (kind : Token.Kind) (mark : Mark) : Reading :=
  let behind := r.count - number
  { r with
    tokens := r.tokens.take behind ++ ⟨kind, mark, mark⟩ :: r.tokens.drop behind
    count := r.count + 1 }

/-- Takes the next `n` characters as a token. -/
def take (r : Reading) (kind : Token.Kind) (n : Nat) : Reading :=
  let rest := r.rest.drop n
  { r.emit kind r.mark (here rest) with rest }

/-! ## Blocks -/

/-- Closes the blocks that are deeper than a column. -/
def closeBlocksTo (column : Int) : Nat → Reading → Reading
  | 0, r => r
  | fuel + 1, r =>
    if column < r.indent then
      closeBlocksTo column fuel
        { r.emit .blockEnd r.mark r.mark with indent := r.indents.headD (-1), indents := r.indents.drop 1 }
    else r

def closeBlocks (r : Reading) (column : Int) : Reading :=
  if r.inFlow then r else closeBlocksTo column r.indents.length r

/-- Opens a block at a column if it is deeper than the block around it. Its token goes in front of
token `number`, or to the end. -/
def openBlock (r : Reading) (column : Nat) (number : Option Nat) (kind : Token.Kind) (mark : Mark) :
    Reading :=
  if !r.inFlow && r.indent < column then
    let r := match number with
      | some n => r.insert n kind mark
      | none => r.emit kind mark mark
    { r with indent := column, indents := r.indent :: r.indents }
  else r

/-! ## Candidates for keys -/

def missingColon (r : Reading) (k : KeyCandidate) : Fault :=
  ⟨.missingColon, r.mark, some (.simpleKey, k.mark)⟩

/-- A key and its colon stand on one line, at most 1024 bytes apart. -/
def isStale (mark : Mark) (k : KeyCandidate) : Bool :=
  k.mark.line < mark.line || k.mark.index + 1024 < mark.index

/-- Candidates that can no longer be keys are forgotten, unless one of them had to be. -/
def dropStaleCandidates (r : Reading) : Except Fault Reading :=
  let stale := isStale r.mark
  match (r.candidate :: r.outer).findSome? (·.filter fun k => k.required && stale k) with
  | some k => .error (r.missingColon k)
  | none =>
    .ok { r with
      candidate := r.candidate.filter (!stale ·)
      outer := r.outer.map (·.filter (!stale ·)) }

def dropCandidate (r : Reading) : Except Fault Reading :=
  match r.candidate with
  | none => .ok r
  | some k => if k.required then .error (r.missingColon k) else .ok { r with candidate := none }

/-- The next token may be a key if keys are allowed here. -/
def noteCandidate (r : Reading) : Except Fault Reading :=
  if r.keyAllowed then do
    let required := !r.inFlow && r.indent == r.mark.column
    let noted ← r.dropCandidate
    return { noted with candidate := some ⟨r.count, r.mark, required⟩ }
  else .ok r

/-! ## Tokens -/

/-- Blanks, comments and line ends before the next token. Tabs count as blanks where no key can start. A line may
start with a byte order mark. -/
def skipToToken : Nat → Reading → Reading
  | 0, r => r
  | fuel + 1, r =>
    let rest := if r.mark.column == 0 && next r.rest == '\ufeff' then r.rest.drop 1 else r.rest
    let tabs := r.inFlow || !r.keyAllowed
    let rest := rest.dropWhile fun g => g.char == ' ' || (tabs && g.char == '\t')
    let rest := if next rest == '#' then skipLineRest rest else rest
    if isBreak (next rest) then
      skipToToken fuel { r with rest := rest.drop 1, keyAllowed := r.keyAllowed || !r.inFlow }
    else { r with rest }

/-- The end of the text counts as the start of a new line. -/
def readEnd (r : Reading) : Except Fault Reading := do
  let m := r.mark
  let m := if m.column = 0 then m else ⟨m.index, m.line + 1, 0⟩
  let r := { r with rest := [⟨endChar, m⟩] }
  let r ← (r.closeBlocks (-1)).dropCandidate
  return { r.emit .streamEnd m m with keyAllowed := false, rest := [] }

def readDirectiveToken (r : Reading) : Except Fault Reading := do
  let r ← (r.closeBlocks (-1)).dropCandidate
  let (kind, rest) ← readDirective r.rest
  return { r.emit kind r.mark (here rest) with rest, keyAllowed := false }

def readDocumentMark (r : Reading) (kind : Token.Kind) : Except Fault Reading := do
  let r ← (r.closeBlocks (-1)).dropCandidate
  return { r.take kind 3 with keyAllowed := false }

def openFlow (r : Reading) (kind : Token.Kind) : Except Fault Reading := do
  let r ← r.noteCandidate
  return { r.take kind 1 with outer := r.candidate :: r.outer, candidate := none, keyAllowed := true }

def closeFlow (r : Reading) (kind : Token.Kind) : Except Fault Reading := do
  let r ← r.dropCandidate
  let r := match r.outer with
    | [] => r
    | c :: outer => { r with candidate := c, outer }
  return { r.take kind 1 with keyAllowed := false }

def readComma (r : Reading) : Except Fault Reading := do
  let r ← r.dropCandidate
  return { r.take .comma 1 with keyAllowed := true }

def readDash (r : Reading) : Except Fault Reading := do
  if !r.inFlow && !r.keyAllowed then throw (r.fail .blockEntryNotAllowed)
  let r ← (r.openBlock r.mark.column none .blockSequence r.mark).dropCandidate
  return { r.take .dash 1 with keyAllowed := true }

def readKeyMark (r : Reading) : Except Fault Reading := do
  if !r.inFlow && !r.keyAllowed then throw (r.fail .keyNotAllowed)
  let r ← (r.openBlock r.mark.column none .blockMapping r.mark).dropCandidate
  return { r.take .key 1 with keyAllowed := !r.inFlow }

/-- A colon makes the candidate a key; without one it stands for an empty key where keys are allowed. -/
def readColon (r : Reading) : Except Fault Reading :=
  match r.candidate with
  | some k =>
    let r := r.insert k.number .key k.mark
    let r := r.openBlock k.mark.column (some k.number) .blockMapping k.mark
    .ok { r.take .value 1 with candidate := none, keyAllowed := false }
  | none =>
    if !r.inFlow && !r.keyAllowed then .error (r.fail .valueNotAllowed)
    else
      let r := r.openBlock r.mark.column none .blockMapping r.mark
      .ok { r.take .value 1 with keyAllowed := !r.inFlow }

def readAnchor (r : Reading) (context : Context) (kind : String → Token.Kind) : Except Fault Reading := do
  let r ← r.noteCandidate
  let (name, rest) ← readName context r.rest
  return { r.emit (kind name) r.mark (here rest) with rest, keyAllowed := false }

def readTagToken (r : Reading) : Except Fault Reading := do
  let r ← r.noteCandidate
  let ((handle, suffix), rest) ← readTag r.inFlow r.rest
  return { r.emit (.tag handle suffix) r.mark (here rest) with rest, keyAllowed := false }

def readBlockScalar (fuel : Nat) (r : Reading) (style : Style) : Except Fault Reading := do
  let r ← r.dropCandidate
  let (text, rest) ← readBlock fuel (style == .folded) r.indent r.rest
  return { r.emit (.scalar text style) r.mark (here rest) with rest, keyAllowed := true }

def readQuotedScalar (fuel : Nat) (r : Reading) (style : Style) : Except Fault Reading := do
  let r ← r.noteCandidate
  let (text, rest) ← readQuoted fuel (style == .singleQuoted) r.rest
  return { r.emit (.scalar text style) r.mark (here rest) with rest, keyAllowed := false }

def readPlainScalar (fuel : Nat) (r : Reading) : Except Fault Reading := do
  let r ← r.noteCandidate
  let (text, broken, rest) ← readPlain fuel r.inFlow r.indent r.rest
  return { r.emit (.scalar text .plain) r.mark (here rest) with rest, keyAllowed := broken }

/-- Whether a plain scalar starts here. -/
def startsPlain (inFlow : Bool) (gs : List Glyph) : Bool :=
  let c := next gs
  let d := peek 1 gs
  !(isGap c || "-?:,[]\x7b\x7d#&*!|>'\"%@\x60".toList.contains c) || (c == '-' && !isBlank d)
    || (!inFlow && (c == '?' || c == ':') && !isGap d)

/-- Reads the token that starts here. -/
def readToken (fuel : Nat) (r : Reading) : Except Fault Reading :=
  let c := next r.rest
  let gapBehind := isGap (peek 1 r.rest)
  if isEnd c then r.readEnd
  else if r.mark.column == 0 && c == '%' then r.readDirectiveToken
  else if isDocumentMark '-' r.rest then r.readDocumentMark .documentStart
  else if isDocumentMark '.' r.rest then r.readDocumentMark .documentEnd
  else if c == '[' then r.openFlow .openSequence
  else if c == '{' then r.openFlow .openMapping
  else if c == ']' then r.closeFlow .closeSequence
  else if c == '}' then r.closeFlow .closeMapping
  else if c == ',' then r.readComma
  else if c == '-' && gapBehind then r.readDash
  else if c == '?' && (r.inFlow || gapBehind) then r.readKeyMark
  else if c == ':' && (r.inFlow || gapBehind) then r.readColon
  else if c == '*' then r.readAnchor .aliasName .aliasOf
  else if c == '&' then r.readAnchor .anchor .anchor
  else if c == '!' then r.readTagToken
  else if c == '|' && !r.inFlow then readBlockScalar fuel r .literal
  else if c == '>' && !r.inFlow then readBlockScalar fuel r .folded
  else if c == '\'' then readQuotedScalar fuel r .singleQuoted
  else if c == '"' then readQuotedScalar fuel r .doubleQuoted
  else if startsPlain r.inFlow r.rest then readPlainScalar fuel r
  else .error ⟨.cannotStartToken, r.mark, some (.nextToken, r.mark)⟩

/-- Skips to the next token and reads it. The fuel is for the lines between and within a scalar. -/
def step (fuel : Nat) (r : Reading) : Except Fault Reading := do
  let r ← (skipToToken fuel r).dropStaleCandidates
  readToken fuel (r.closeBlocks r.mark.column)

/-- The tokens that are certain: those before the first candidate, which may still become a key. -/
def certain (r : Reading) : List Token :=
  let open_ := (r.candidate :: r.outer).filterMap (·.map KeyCandidate.number)
  r.tokens.reverse.take (open_.foldl min r.count)

/-- Every step takes at least one character, and the last one the end. So there are never more
characters left than there is fuel. -/
def run : Nat → Reading → TokenStream
  | 0, r => ⟨r.tokens.reverse, none⟩
  | fuel + 1, r =>
    if r.rest.isEmpty then ⟨r.tokens.reverse, none⟩
    else
      match r.dropStaleCandidates with
      | .error fault => ⟨r.certain, some fault⟩
      | .ok r =>
        match r.step (fuel + 1) with
        | .error fault => ⟨r.certain, some fault⟩
        | .ok next => run fuel next

end Reading

/-- The tokens of a text. -/
def TokenStream.ofGlyphs (gs : List Glyph) : TokenStream := Reading.run (gs.length + 1) (.ofGlyphs gs)

end CatalogGate.Yaml
