-- Reading queries: `$` and then names behind points, and brackets with quoted keys, an index or a star.
import CatalogGate.Query.Basic
import CatalogGate.Text.Blank
import CatalogGate.Text.Number

namespace CatalogGate

/-- Why a text is no query. -/
inductive QueryError where
  | missingRoot
  | recursiveDescent
  | emptyName
  | unexpected (rest : String)
  | unterminated
  | notAKey (part : String)
  | emptyBrackets
deriving Repr, DecidableEq

def QueryError.message : QueryError → String
  | missingRoot => "path must start with '$'"
  | recursiveDescent => "recursive descent '..' is not supported"
  | emptyName => "empty member name"
  | unexpected rest => s!"unexpected input at '{rest}'"
  | unterminated => "unterminated '['"
  | notAKey part => s!"expected a quoted key, '*' or an index, got '{part}'"
  | emptyBrackets => "empty brackets"

namespace Query

def isQuote (c : Char) : Bool := c == '\'' || c == '"'

/-- The open quote after a character: a quote opens one, and the same quote closes it. -/
def quoteAfter (quote : Option Char) (c : Char) : Option Char :=
  match quote with
  | some q => if c = q then none else some q
  | none => if isQuote c then some c else none

/-! ## Brackets -/

/-- What stands before the closing bracket and what stands behind it. Inside quotes no bracket closes. -/
def splitBracket (quote : Option Char) (read : List Char) : List Char → Option (List Char × List Char)
  | [] => none
  | c :: rest =>
    if quote = none ∧ c = ']' then some (read.reverse, rest)
    else splitBracket (quoteAfter quote c) (c :: read) rest

/-- The parts between commas outside of quotes. -/
def splitUnion (quote : Option Char) (read : List Char) : List Char → List (List Char)
  | [] => [read.reverse]
  | c :: rest =>
    if quote = none ∧ c = ',' then read.reverse :: splitUnion none [] rest
    else splitUnion (quoteAfter quote c) (c :: read) rest

/-- The text between two quotes of one kind at the very ends. -/
def unquote? : List Char → Option (List Char)
  | q :: rest => if isQuote q ∧ rest.getLast? = some q then some rest.dropLast else none
  | [] => none

def readKey (part : List Char) : Except QueryError String :=
  let part := Text.trim part
  match unquote? part with
  | some key => .ok (String.ofList key)
  | none => .error (.notAKey (String.ofList part))

/-- The selector that the text between brackets writes. -/
def readBracket (inner : List Char) : Except QueryError Selector := do
  let inner := Text.trim inner
  if inner = ['*'] then return .wildcard
  match Text.count? inner with
  | some position => return .index position
  | none =>
    if inner.isEmpty then throw .emptyBrackets
    match ← (splitUnion none [] inner).mapM readKey with
    | [key] => return .key key
    | keys => return .union keys

/-! ## Segments -/

/-- What ends a name behind a point. -/
def endsName (c : Char) : Bool := c == '.' || c == '['

def readName (name : List Char) : Except QueryError Selector :=
  if name.isEmpty then .error .emptyName
  else if name = ['*'] then .ok .wildcard
  else .ok (.key (String.ofList name))

/-- The selectors of the segments that follow. Every segment takes a character, which bounds the fuel. -/
def readSegments : Nat → List Char → Except QueryError (List Selector)
  | 0, _ => .ok []
  | _ + 1, [] => .ok []
  | _ + 1, '.' :: '.' :: _ => .error .recursiveDescent
  | fuel + 1, '.' :: rest => do
    let selector ← readName (rest.takeWhile (!endsName ·))
    return selector :: (← readSegments fuel (rest.dropWhile (!endsName ·)))
  | fuel + 1, '[' :: rest =>
    match splitBracket none [] rest with
    | none => .error .unterminated
    | some (inner, rest) => do
      let selector ← readBracket inner
      return selector :: (← readSegments fuel rest)
  | _ + 1, rest => .error (.unexpected (String.ofList rest))

/-- The query that a text writes. Blanks around it do not count. -/
def read (text : String) : Except QueryError Query :=
  let trimmed := Text.trim text.toList
  match trimmed with
  | '$' :: rest => do return ⟨String.ofList trimmed, ← readSegments (rest.length + 1) rest⟩
  | _ => .error .missingRoot

end Query

end CatalogGate
