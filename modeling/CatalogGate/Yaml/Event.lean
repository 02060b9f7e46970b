-- The events of a YAML text: documents, scalars, aliases and the starts and ends of collections, in the
-- order of the text. They are read off the tokens one at a time, so that everything before the first
-- fault is known.
import CatalogGate.Yaml.Fault
import CatalogGate.Yaml.Token.Stream

namespace CatalogGate.Yaml

/-- What may stand in front of a node. An absent tag is `none`. -/
structure Properties where
  anchor : Option String := none
  tag : Option String := none
deriving Repr, DecidableEq

inductive Event.Kind where
  | documentStart
  | documentEnd
  | streamEnd
  | aliasOf (name : String)
  | scalar (properties : Properties) (text : String) (style : Style)
  | sequenceStart (properties : Properties)
  | sequenceEnd
  | mappingStart (properties : Properties)
  | mappingEnd
deriving Repr, DecidableEq

structure Event where
  kind : Event.Kind
  mark : Mark
deriving Repr, DecidableEq

/-- What the next token has to be. -/
inductive Expect where
  | firstDocument
  | document
  | documentContent
  | documentEnd
  | blockNode
  | firstBlockEntry
  | blockEntry
  | indentlessEntry
  | firstBlockKey
  | blockKey
  | blockValue
  | firstFlowEntry
  | flowEntry
  | pairKey
  | pairValue
  | pairEnd
  | firstFlowKey
  | flowKey
  | flowValue
  | flowNoValue
  | nothing
deriving Repr, DecidableEq

/-- Where the reading of events stands. -/
structure Parsing where
  tokens : List Token
  fault : Option Fault
  expect : Expect
  /-- What is expected once the current node is complete, innermost first. -/
  later : List Expect
  /-- Where the open collections start, innermost first. -/
  opened : List Mark
  tagPrefixes : List (String × String)

namespace Parsing

def ofTokens (s : TokenStream) : Parsing := ⟨s.tokens, s.fault, .firstDocument, [], [], []⟩

def peek (p : Parsing) : Except Fault Token :=
  match p.tokens, p.fault with
  | t :: _, _ => .ok t
  | [], some fault => .error fault
  | [], none => .ok ⟨.streamEnd, .start, .start⟩

def skip (p : Parsing) : Parsing := { p with tokens := p.tokens.drop 1 }

def goto (p : Parsing) (expect : Expect) : Parsing := { p with expect }

def push (p : Parsing) (expect : Expect) : Parsing := { p with later := expect :: p.later }

/-- Goes on with what the node that is now complete stood in. -/
def pop (p : Parsing) : Parsing := { p with expect := p.later.headD .nothing, later := p.later.drop 1 }

def openAt (p : Parsing) (mark : Mark) : Parsing := { p with opened := mark :: p.opened }

def close (p : Parsing) : Parsing := { p with opened := p.opened.drop 1 }

/-- A collection that started at the innermost open place cannot go on with this token. -/
def unexpected (p : Parsing) (context : Context) (problem : Problem) (t : Token) : Fault :=
  ⟨problem, t.start, some (context, p.opened.headD .start)⟩

/-- A node that is not written. -/
def empty (p : Parsing) (mark : Mark) : Event × Parsing := (⟨.scalar {} "" .plain, mark⟩, p)

/-! ## Documents -/

def defaultTagPrefixes : List (String × String) := [("!", "!"), ("!!", "tag:yaml.org,2002:")]

/-- Directives in front of a document. Only the versions 1.1 and 1.2 are known. -/
def readDirectives : Nat → Bool → Parsing → Except Fault Parsing
  | 0, _, p => .ok p
  | fuel + 1, versioned, p => do
    let t ← p.peek
    match t.kind with
    | .version major minor =>
      if versioned then throw ⟨.repeatedVersion, t.start, none⟩
      if major ≠ 1 ∨ (minor ≠ 1 ∧ minor ≠ 2) then throw ⟨.foreignVersion, t.start, none⟩
      readDirectives fuel true p.skip
    | .tagPrefix handle expansion =>
      if p.tagPrefixes.any (·.1 == handle) then throw ⟨.repeatedTagDirective, t.start, none⟩
      readDirectives fuel versioned { p.skip with tagPrefixes := p.tagPrefixes ++ [(handle, expansion)] }
    | _ =>
      let known := defaultTagPrefixes.filter fun d => !p.tagPrefixes.any (·.1 == d.1)
      return { p with tagPrefixes := p.tagPrefixes ++ known }

def skipDocumentEnds : List Token → List Token
  | t :: rest => if t.kind = .documentEnd then skipDocumentEnds rest else t :: rest
  | [] => []

/-- The start of a document. Only the first may begin without a mark. -/
def readDocumentStart (p : Parsing) (first : Bool) : Except Fault (Event × Parsing) := do
  let p := if first then p else { p with tokens := skipDocumentEnds p.tokens }
  let t ← p.peek
  let explicit := match t.kind with
    | .version .. | .tagPrefix .. | .documentStart => true
    | _ => false
  if t.kind = .streamEnd then return (⟨.streamEnd, t.start⟩, (p.skip).goto .nothing)
  else if first && !explicit then
    let p ← readDirectives (p.tokens.length + 1) false p
    return (⟨.documentStart, t.start⟩, (p.push .documentEnd).goto .blockNode)
  else
    let p ← readDirectives (p.tokens.length + 1) false p
    let mark ← p.peek
    if mark.kind ≠ .documentStart then throw ⟨.missingDocumentStart, mark.start, none⟩
    return (⟨.documentStart, t.start⟩, (p.skip.push .documentEnd).goto .documentContent)

def readDocumentEnd (p : Parsing) : Except Fault (Event × Parsing) := do
  let t ← p.peek
  let p := if t.kind = .documentEnd then p.skip else p
  return (⟨.documentEnd, t.start⟩, { p with tagPrefixes := [] }.goto .document)

/-! ## Nodes -/

/-- The anchor and the tag of a node in either order, and where the node starts. -/
structure NodeHead where
  anchor : Option String := none
  tag : Option (String × String × Mark) := none
  start : Mark

def readNodeHead (p : Parsing) : Except Fault (NodeHead × Parsing) := do
  let t ← p.peek
  match t.kind with
  | .anchor name =>
    let p := p.skip
    let u ← p.peek
    match u.kind with
    | .tag handle suffix => return ({ anchor := name, tag := (handle, suffix, u.start), start := t.start }, p.skip)
    | _ => return ({ anchor := name, start := t.start }, p)
  | .tag handle suffix =>
    let p := p.skip
    let u ← p.peek
    match u.kind with
    | .anchor name => return ({ anchor := name, tag := (handle, suffix, t.start), start := t.start }, p.skip)
    | _ => return ({ tag := (handle, suffix, t.start), start := t.start }, p)
  | _ => return ({ start := t.start }, p)

/-- The whole text of a tag. -/
def resolveTag (p : Parsing) (head : NodeHead) : Except Fault (Option String) :=
  match head.tag with
  | none => .ok none
  | some (handle, suffix, mark) =>
    if handle.isEmpty then .ok (some suffix)
    else
      match p.tagPrefixes.find? (·.1 == handle) with
      | some (_, expansion) => .ok (some (expansion ++ suffix))
      | none => .error ⟨.undefinedTagHandle, mark, some (.node, head.start)⟩

/-- A node. In a block it may be a block collection, and a sequence may stand at the column of the key it
belongs to. -/
def readNode (p : Parsing) (block indentless : Bool) : Except Fault (Event × Parsing) := do
  let t ← p.peek
  match t.kind with
  | .aliasOf name => return (⟨.aliasOf name, t.start⟩, p.skip.pop)
  | _ =>
    let (head, p) ← p.readNodeHead
    let tag ← p.resolveTag head
    let properties : Properties := ⟨head.anchor, tag⟩
    let t ← p.peek
    let context := if block then Context.blockNode else Context.flowNode
    let absent : Except Fault (Event × Parsing) :=
      if head.anchor.isSome || tag.isSome then
        .ok (⟨.scalar properties "" .plain, head.start⟩, p.pop)
      else .error ⟨.missingContent, t.start, some (context, head.start)⟩
    match t.kind with
    | .dash =>
      if indentless then return (⟨.sequenceStart properties, head.start⟩, p.goto .indentlessEntry)
      else absent
    | .scalar text style =>
      let properties := if tag = some "!" then { properties with tag := none } else properties
      return (⟨.scalar properties text style, head.start⟩, p.skip.pop)
    | .openSequence => return (⟨.sequenceStart properties, head.start⟩, p.goto .firstFlowEntry)
    | .openMapping => return (⟨.mappingStart properties, head.start⟩, p.goto .firstFlowKey)
    | .blockSequence =>
      if block then return (⟨.sequenceStart properties, head.start⟩, p.goto .firstBlockEntry) else absent
    | .blockMapping =>
      if block then return (⟨.mappingStart properties, head.start⟩, p.goto .firstBlockKey) else absent
    | _ => absent

/-- Goes on with a node, and with `after` behind it, unless the token says that it is not written. -/
def nodeUnless (p : Parsing) (missing : List Token.Kind) (after : Expect) (mark : Mark)
    (block indentless : Bool) : Except Fault (Event × Parsing) := do
  let t ← p.peek
  if missing.contains t.kind then return (p.goto after).empty mark
  else (p.push after).readNode block indentless

/-! ## Block collections -/

def readBlockEntry (p : Parsing) : Except Fault (Event × Parsing) := do
  let t ← p.peek
  match t.kind with
  | .dash => p.skip.nodeUnless [.dash, .blockEnd] .blockEntry t.stop true false
  | .blockEnd => return (⟨.sequenceEnd, t.start⟩, p.skip.close.pop)
  | _ => throw (p.unexpected .blockSequence .missingDash t)

def readIndentlessEntry (p : Parsing) : Except Fault (Event × Parsing) := do
  let t ← p.peek
  match t.kind with
  | .dash => p.skip.nodeUnless [.dash, .key, .value, .blockEnd] .indentlessEntry t.stop true false
  | _ => return (⟨.sequenceEnd, t.start⟩, p.pop)

def readBlockKey (p : Parsing) : Except Fault (Event × Parsing) := do
  let t ← p.peek
  match t.kind with
  | .key => p.skip.nodeUnless [.key, .value, .blockEnd] .blockValue t.stop true true
  | .blockEnd => return (⟨.mappingEnd, t.start⟩, p.skip.close.pop)
  | _ => throw (p.unexpected .blockMapping .missingKey t)

def readBlockValue (p : Parsing) : Except Fault (Event × Parsing) := do
  let t ← p.peek
  match t.kind with
  | .value => p.skip.nodeUnless [.key, .value, .blockEnd] .blockKey t.stop true true
  | _ => return (p.goto .blockKey).empty t.start

/-! ## Flow collections -/

/-- The comma in front of every entry but the first. -/
def readSeparator (p : Parsing) (first : Bool) (closing : Token.Kind) (context : Context)
    (problem : Problem) : Except Fault Parsing := do
  let t ← p.peek
  if first || t.kind = closing then return p
  else if t.kind = .comma then return p.skip
  else throw (p.unexpected context problem t)

def readFlowEntry (p : Parsing) (first : Bool) : Except Fault (Event × Parsing) := do
  let p ← p.readSeparator first .closeSequence .flowSequence .missingCommaOrBracket
  let t ← p.peek
  match t.kind with
  | .closeSequence => return (⟨.sequenceEnd, t.start⟩, p.skip.close.pop)
  | .key => return (⟨.mappingStart {}, t.start⟩, p.skip.goto .pairKey)
  | _ => (p.push .flowEntry).readNode false false

def readPairKey (p : Parsing) : Except Fault (Event × Parsing) := do
  let t ← p.peek
  match t.kind with
  | .value | .comma | .closeSequence => return (p.skip.goto .pairValue).empty t.stop
  | _ => (p.push .pairValue).readNode false false

def readPairValue (p : Parsing) : Except Fault (Event × Parsing) := do
  let t ← p.peek
  match t.kind with
  | .value =>
    let p := p.skip
    let t ← p.peek
    p.nodeUnless [.comma, .closeSequence] .pairEnd t.start false false
  | _ => return (p.goto .pairEnd).empty t.start

def readPairEnd (p : Parsing) : Except Fault (Event × Parsing) := do
  let t ← p.peek
  return (⟨.mappingEnd, t.start⟩, p.goto .flowEntry)

def readFlowKey (p : Parsing) (first : Bool) : Except Fault (Event × Parsing) := do
  let p ← p.readSeparator first .closeMapping .flowMapping .missingCommaOrBrace
  let t ← p.peek
  match t.kind with
  | .closeMapping => return (⟨.mappingEnd, t.start⟩, p.skip.close.pop)
  | .key =>
    let p := p.skip
    let t ← p.peek
    p.nodeUnless [.value, .comma, .closeMapping] .flowValue t.start false false
  | _ => (p.push .flowNoValue).readNode false false

def readFlowValue (p : Parsing) : Except Fault (Event × Parsing) := do
  let t ← p.peek
  match t.kind with
  | .value =>
    let p := p.skip
    let t ← p.peek
    p.nodeUnless [.comma, .closeMapping] .flowKey t.start false false
  | _ => return (p.goto .flowKey).empty t.start

/-- A collection whose first token is its opening one. -/
def enter (p : Parsing) : Except Fault Parsing := do
  let t ← p.peek
  return p.skip.openAt t.start

/-- The next event. -/
def step (p : Parsing) : Except Fault (Event × Parsing) :=
  match p.expect with
  | .firstDocument => p.readDocumentStart true
  | .document => p.readDocumentStart false
  | .documentContent => do
    let t ← p.peek
    match t.kind with
    | .version .. | .tagPrefix .. | .documentStart | .documentEnd | .streamEnd => return p.pop.empty t.start
    | _ => p.readNode true false
  | .documentEnd => p.readDocumentEnd
  | .blockNode => p.readNode true false
  | .firstBlockEntry => do (← p.enter).readBlockEntry
  | .blockEntry => p.readBlockEntry
  | .indentlessEntry => p.readIndentlessEntry
  | .firstBlockKey => do (← p.enter).readBlockKey
  | .blockKey => p.readBlockKey
  | .blockValue => p.readBlockValue
  | .firstFlowEntry => do (← p.enter).readFlowEntry true
  | .flowEntry => p.readFlowEntry false
  | .pairKey => p.readPairKey
  | .pairValue => p.readPairValue
  | .pairEnd => p.readPairEnd
  | .firstFlowKey => do (← p.enter).readFlowKey true
  | .flowKey => p.readFlowKey false
  | .flowValue => p.readFlowValue
  | .flowNoValue => do return (p.goto .flowKey).empty (← p.peek).start
  | .nothing => do return (⟨.streamEnd, (← p.peek).start⟩, p)

/-- The events that could be read, and what was wrong with the rest. -/
def run : Nat → List Event → Parsing → List Event × Option Fault
  | 0, events, _ => (events.reverse, none)
  | fuel + 1, events, p =>
    match p.step with
    | .error fault => (events.reverse, some fault)
    | .ok (event, p) =>
      if event.kind = .streamEnd then ((event :: events).reverse, none) else run fuel (event :: events) p

end Parsing

/-- The events of a text. A token gives at most one event of its own, with at most two for nodes that are
not written beside it. -/
def events (text : List Char) : List Event × Option Fault :=
  let tokens := TokenStream.ofGlyphs (glyphs text)
  Parsing.run (4 * tokens.tokens.length + 8) [] (.ofTokens tokens)

end CatalogGate.Yaml
