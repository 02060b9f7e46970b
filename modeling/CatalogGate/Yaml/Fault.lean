-- What can be wrong with the form of a YAML text.
import CatalogGate.Yaml.Glyph

namespace CatalogGate.Yaml

/-- What is wrong. -/
inductive Problem where
  | cannotStartToken
  | blockEntryNotAllowed
  | keyNotAllowed
  | valueNotAllowed
  | missingColon
  | unknownDirective
  | missingDirectiveName
  | badDirectiveName
  | missingLineEnd
  | missingVersionDigit
  | longVersion
  | missingVersion
  | missingWhitespace
  | missingWhitespaceOrBreak
  | missingAnchorName
  | missingTagEnd
  | missingTagMark
  | missingTagText
  | badUriEscape
  | badUriLead
  | badUriTrail
  | zeroIndent
  | tabInIndent
  | tabBelowIndent
  | documentMarkInside
  | endOfStream
  | unknownEscape
  | missingHexDigit
  | badCodePoint
  | colonInFlow
  | missingDocumentStart
  | undefinedTagHandle
  | missingContent
  | missingDash
  | missingKey
  | missingCommaOrBracket
  | missingCommaOrBrace
  | repeatedVersion
  | foreignVersion
  | repeatedTagDirective
deriving Repr, DecidableEq

def Problem.text : Problem → String
  | cannotStartToken => "found character that cannot start any token"
  | blockEntryNotAllowed => "block sequence entries are not allowed in this context"
  | keyNotAllowed => "mapping keys are not allowed in this context"
  | valueNotAllowed => "mapping values are not allowed in this context"
  | missingColon => "could not find expected ':'"
  | unknownDirective => "found unknown directive name"
  | missingDirectiveName => "could not find expected directive name"
  | badDirectiveName => "found unexpected non-alphabetical character"
  | missingLineEnd => "did not find expected comment or line break"
  | missingVersionDigit => "did not find expected digit or '.' character"
  | longVersion => "found extremely long version number"
  | missingVersion => "did not find expected version number"
  | missingWhitespace => "did not find expected whitespace"
  | missingWhitespaceOrBreak => "did not find expected whitespace or line break"
  | missingAnchorName => "did not find expected alphabetic or numeric character"
  | missingTagEnd => "did not find the expected '>'"
  | missingTagMark => "did not find expected '!'"
  | missingTagText => "did not find expected tag URI"
  | badUriEscape => "did not find URI escaped octet"
  | badUriLead => "found an incorrect leading UTF-8 octet"
  | badUriTrail => "found an incorrect trailing UTF-8 octet"
  | zeroIndent => "found an indentation indicator equal to 0"
  | tabInIndent => "found a tab character where an indentation space is expected"
  | tabBelowIndent => "found a tab character that violates indentation"
  | documentMarkInside => "found unexpected document indicator"
  | endOfStream => "found unexpected end of stream"
  | unknownEscape => "found unknown escape character"
  | missingHexDigit => "did not find expected hexadecimal number"
  | badCodePoint => "found invalid Unicode character escape code"
  | colonInFlow => "found unexpected ':'"
  | missingDocumentStart => "did not find expected <document start>"
  | undefinedTagHandle => "found undefined tag handle"
  | missingContent => "did not find expected node content"
  | missingDash => "did not find expected '-' indicator"
  | missingKey => "did not find expected key"
  | missingCommaOrBracket => "did not find expected ',' or ']'"
  | missingCommaOrBrace => "did not find expected ',' or '\x7d'"
  | repeatedVersion => "found duplicate %YAML directive"
  | foreignVersion => "found incompatible YAML document"
  | repeatedTagDirective => "found duplicate %TAG directive"

/-- What was being read when it went wrong. -/
inductive Context where
  | nextToken
  | simpleKey
  | directive
  | versionDirective
  | tagDirectiveLine
  | tagDirectiveHandle
  | tagDirectiveMark
  | tagDirectiveText
  | anchor
  | aliasName
  | tag
  | tagText
  | blockScalar
  | quotedScalar
  | quotedEscape
  | plainScalar
  | node
  | blockNode
  | flowNode
  | blockSequence
  | blockMapping
  | flowSequence
  | flowMapping
deriving Repr, DecidableEq

def Context.text : Context → String
  | nextToken => "while scanning for the next token"
  | simpleKey => "while scanning a simple key"
  | directive => "while scanning a directive"
  | versionDirective => "while scanning a %YAML directive"
  | tagDirectiveLine => "while scanning a %TAG directive"
  | tagDirectiveHandle => "while scanning a tag directive"
  | tagDirectiveMark => "while parsing a tag directive"
  | tagDirectiveText => "while parsing a %TAG directive"
  | anchor => "while scanning an anchor"
  | aliasName => "while scanning an alias"
  | tag => "while scanning a tag"
  | tagText => "while parsing a tag"
  | blockScalar => "while scanning a block scalar"
  | quotedScalar => "while scanning a quoted scalar"
  | quotedEscape => "while parsing a quoted scalar"
  | plainScalar => "while scanning a plain scalar"
  | node => "while parsing a node"
  | blockNode => "while parsing a block node"
  | flowNode => "while parsing a flow node"
  | blockSequence => "while parsing a block collection"
  | blockMapping => "while parsing a block mapping"
  | flowSequence => "while parsing a flow sequence"
  | flowMapping => "while parsing a flow mapping"

/-- A problem, where it was noticed, and what was being read from where. -/
structure Fault where
  problem : Problem
  mark : Mark
  context : Option (Context × Mark)
deriving Repr, DecidableEq

/-- A fault noticed at `gs` while reading what started at `start`. -/
def Fault.inside (context : Context) (start : Mark) (problem : Problem) (gs : List Glyph) : Fault :=
  ⟨problem, here gs, some (context, start)⟩

/-- The place of the context is shown only when it is not the place of the problem. -/
def Fault.message (f : Fault) : String :=
  let place := if f.mark.isStart then "" else " at " ++ f.mark.text
  let context := match f.context with
    | none => ""
    | some (c, m) =>
      let same := m.line == f.mark.line && m.column == f.mark.column
      ", " ++ c.text ++ (if m.isStart || same then "" else " at " ++ m.text)
  f.problem.text ++ place ++ context

end CatalogGate.Yaml
