-- Media types with parameters, as they stand in headers.
import CatalogGate.Text.Blank

namespace CatalogGate.Http

/-- A parameter with what stands in front of it and, behind a value in quotes, the blanks that follow. -/
structure MediaType.Parameter where
  /-- A separator and blanks. -/
  lead : List Char
  name : List Char
  value : List Char
  isQuoted : Bool
  tail : List Char
deriving Repr, DecidableEq

/-- A media type. Its two names and the names of its parameters are in small letters. -/
structure MediaType where
  kind : List Char
  subkind : List Char
  parameters : List MediaType.Parameter
  /-- A separator and blanks behind which no parameter stands. -/
  rest : List Char
deriving Repr, DecidableEq

namespace MediaType

def isTokenChar (c : Char) : Bool := c.isAlphanum || "!#$%&'*+-.^_\x60|~".toList.contains c

/-- What may stand between quotes. The quote that ends a value cannot be its first character, so there it
stands for itself. -/
def isQuotedChar (c : Char) : Bool := c = '\t' || (32 ≤ c.toNat && c.toNat < 127)

/-- How a value is kept. The letters of a charset are small ones. -/
def kept (name value : List Char) : List Char := if name == "charset".toList then Text.lowerAscii value else value

def readQuoted? (lead name cs : List Char) : Option (Parameter × List Char) :=
  match cs with
  | [] => none
  | first :: more =>
    let value := first :: more.takeWhile fun c => isQuotedChar c && c ≠ '"'
    match cs.drop value.length with
    | '"' :: more =>
      let tail := more.takeWhile (· = ' ')
      if isQuotedChar first then some (⟨lead, name, kept name value, true, tail⟩, more.drop tail.length) else none
    | _ => none

/-- A parameter, from behind the separator and the blanks in front of it on. -/
def readParameter? (lead cs : List Char) : Option (Parameter × List Char) :=
  let name := cs.takeWhile isTokenChar
  match cs.drop name.length with
  | '=' :: rest =>
    let name := Text.lowerAscii name
    if name.isEmpty then none
    else
      match rest with
      | '"' :: quoted => readQuoted? lead name quoted
      | _ =>
        let value := rest.takeWhile isTokenChar
        let rest := rest.drop value.length
        if value.isEmpty && !rest.isEmpty then none else some (⟨lead, name, kept name value, false, []⟩, rest)
  | _ => none

/-- Parameters, each behind a semicolon. Behind the last semicolon there may be blanks only. In front of
the first parameter a blank will do for a semicolon. -/
def readParameters? (kind subkind : List Char) (read : List Parameter) : Nat → List Char → Option MediaType
  | _, [] => some ⟨kind, subkind, read.reverse, []⟩
  | 0, _ :: _ => none
  | fuel + 1, mark :: cs =>
    if mark = ';' || (mark = ' ' && read.isEmpty) then
      let blanks := cs.takeWhile (· = ' ')
      match cs.drop blanks.length with
      | [] => some ⟨kind, subkind, read.reverse, mark :: cs⟩
      | cs =>
        match readParameter? (mark :: blanks) cs with
        | some (p, rest) => readParameters? kind subkind (p :: read) fuel rest
        | none => none
    else none

/-- The media type that a header says. Nothing but the end of the text may follow a slash at once. -/
def read? (cs : List Char) : Option MediaType :=
  let kind := cs.takeWhile isTokenChar
  match cs.drop kind.length with
  | '/' :: rest =>
    let subkind := rest.takeWhile isTokenChar
    let rest := rest.drop subkind.length
    if kind.isEmpty || (subkind.isEmpty && !rest.isEmpty) then none
    else readParameters? (Text.lowerAscii kind) (Text.lowerAscii subkind) [] cs.length rest
  | _ => none

/-- The second name without what stands behind its last plus sign. A plus sign in front does not count. -/
def base (m : MediaType) : List Char :=
  match m.subkind with
  | [] => []
  | first :: more =>
    if more.contains '+' then first :: ((more.reverse.dropWhile (· ≠ '+')).drop 1).reverse else m.subkind

/-- The value of the first parameter with a name. -/
def parameter? (m : MediaType) (name : String) : Option String :=
  (m.parameters.find? (·.name == name.toList)).map fun p => String.ofList p.value

def Parameter.text (p : Parameter) : List Char :=
  let value := if p.isQuoted then '"' :: (p.value ++ ['"']) else p.value
  p.lead ++ p.name ++ '=' :: value ++ p.tail

/-- The media type as text. A separator without any parameter is left out. -/
def text (m : MediaType) : String :=
  let behind := if m.parameters.isEmpty then [] else m.parameters.flatMap Parameter.text ++ m.rest
  String.ofList (m.kind ++ '/' :: m.subkind ++ behind)

end MediaType

end CatalogGate.Http
