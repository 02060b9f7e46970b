-- Identifiers of resources: what they are made of, and how one is meant beside another one.
import CatalogGate.Schema.Format.Address
import CatalogGate.Text.Blank
import CatalogGate.Text.Hex
import CatalogGate.Text.Utf8

namespace CatalogGate.Schema

/-- An identifier by its parts. One without a scheme refers to something from where it stands. -/
structure Identifier where
  scheme : Option (List Char)
  authority : Option (List Char)
  path : List Char
  query : Option (List Char)
  fragment : Option (List Char)
deriving Repr, DecidableEq

namespace Identifier

/-! ## Characters -/

/-- Which characters may stand for themselves. -/
structure Alphabet where
  /-- Letters beyond ASCII. -/
  wide : Bool

/-- Characters beyond ASCII that may stand anywhere. -/
def isWide (c : Char) : Bool :=
  let n := c.toNat
  let low := n % 0x10000
  if n < 0x10000 then (0xA0 ≤ n && n ≤ 0xD7FF) || (0xF900 ≤ n && n ≤ 0xFDCF) || (0xFDF0 ≤ n && n ≤ 0xFFEF)
  else n < 0xF0000 && low < 0xFFFE && !(0xE0000 ≤ n && n < 0xE1000)

/-- Characters for private use, which may stand in queries. -/
def isPrivate (c : Char) : Bool :=
  let n := c.toNat
  (0xE000 ≤ n && n ≤ 0xF8FF) || (0xF0000 ≤ n && n % 0x10000 < 0xFFFE)

def isUnreserved (a : Alphabet) (c : Char) : Bool := c.isAlphanum || "-._~".toList.contains c || (a.wide && isWide c)

def isSubDelimiter (c : Char) : Bool := "!$&'()*+,;=".toList.contains c

def isPlain (a : Alphabet) (c : Char) : Bool := isUnreserved a c || isSubDelimiter c

def isPathChar (a : Alphabet) (c : Char) : Bool := isPlain a c || c == ':' || c == '@' || c == '/'

def isQueryChar (a : Alphabet) (c : Char) : Bool := isPathChar a c || c == '?' || (a.wide && isPrivate c)

def isFragmentChar (a : Alphabet) (c : Char) : Bool := isPathChar a c || c == '?'

def isSchemeChar (c : Char) : Bool := c.isAlphanum || c == '+' || c == '-' || c == '.'

/-! ## Reading -/

/-- Why a text is no identifier, with the text from the place of the fault on. -/
inductive Fault where
  | badOctet (rest : List Char)
  | unexpected (rest : List Char)
  | badAddress (rest : List Char)
deriving Repr, DecidableEq

def Fault.rest : Fault → List Char
  | badOctet rest => rest
  | unexpected rest => rest
  | badAddress rest => rest

def Fault.description : Fault → String
  | badOctet _ => "invalid percent-encoded octet"
  | unexpected _ => "unexpected character"
  | badAddress _ => "invalid IPv6 address"

/-- What is wrong with a text, and the number of bytes before the place. -/
def Fault.message (fault : Fault) (text : List Char) : String :=
  let index := Text.byteOffset text (text.length - fault.rest.length)
  s!"{fault.description} at index {index}"

/-- The longest text of certain characters and of bytes written with `%`, and what is behind it. The
characters read before come last first. -/
def run (isIn : Char → Bool) (read : List Char) : List Char → Except Fault (List Char × List Char)
  | [] => .ok (read.reverse, [])
  | '%' :: x :: y :: rest =>
    if Text.isHexDigit x && Text.isHexDigit y then run isIn (y :: x :: '%' :: read) rest
    else .error (.badOctet ('%' :: x :: y :: rest))
  | c :: rest =>
    if c = '%' then .error (.badOctet (c :: rest))
    else if isIn c then run isIn (c :: read) rest
    else .ok (read.reverse, c :: rest)

/-- What is between brackets, which an address in another form is: a version and a text. -/
def isFutureAddress (cs : List Char) : Bool :=
  match cs with
  | v :: rest =>
    let version := rest.takeWhile (· ≠ '.')
    let address := rest.dropWhile (· ≠ '.')
    (v == 'v' || v == 'V') && !version.isEmpty && version.all Text.isHexDigit && 1 < address.length
      && (address.drop 1).all fun c => isPlain ⟨false⟩ c || c == ':'
  | [] => false

/-- A number behind a colon. -/
def readPort (cs : List Char) : List Char × List Char :=
  match cs with
  | ':' :: rest => (':' :: rest.takeWhile Char.isDigit, rest.dropWhile Char.isDigit)
  | _ => ([], cs)

/-- A host and perhaps a number behind it. -/
def readHost (a : Alphabet) (cs : List Char) : Except Fault (List Char × List Char) := do
  match cs with
  | '[' :: inner =>
    let address := inner.takeWhile (· ≠ ']')
    let behind := inner.dropWhile (· ≠ ']')
    if behind.isEmpty || !(Address.isIpv6 address || isFutureAddress address) then throw (.badAddress inner)
    let (port, rest) := readPort (behind.drop 1)
    return ('[' :: address ++ ']' :: port, rest)
  | _ =>
    let (name, behind) ← run (isPlain a) [] cs
    let (port, rest) := readPort behind
    return (name ++ port, rest)

/-- A host with perhaps a user before it and a number behind it. -/
def readAuthority (a : Alphabet) (cs : List Char) : Except Fault (List Char × List Char) := do
  let (front, behind) ← run (fun c => isPlain a c || c == ':') [] cs
  match behind with
  | '@' :: rest =>
    let (host, rest) ← readHost a rest
    return (front ++ '@' :: host, rest)
  | _ =>
    let (host, rest) ← readHost a cs
    match rest with
    | c :: _ => if c = '/' ∨ c = '?' ∨ c = '#' then return (host, rest) else throw (.unexpected rest)
    | [] => return (host, rest)

/-- A part that starts with a mark, if the mark stands here. -/
def readPart (mark : Char) (isIn : Char → Bool) (cs : List Char) :
    Except Fault (Option (List Char) × List Char) := do
  match cs with
  | c :: rest =>
    if c = mark then
      let (part, rest) ← run isIn [] rest
      return (some part, rest)
    return (none, cs)
  | [] => return (none, [])

/-- The path and what is behind it. -/
def readPath (a : Alphabet) (scheme authority : Option (List Char)) (cs : List Char) : Except Fault Identifier := do
  let (path, rest) ← match authority, cs with
    | some _, c :: _ => if c = '/' then run (isPathChar a) [] cs else pure ([], cs)
    | _, _ => run (isPathChar a) [] cs
  let (query, rest) ← readPart '?' (isQueryChar a) rest
  let (fragment, rest) ← readPart '#' (isFragmentChar a) rest
  if !rest.isEmpty then throw (.unexpected rest)
  return ⟨scheme, authority, path, query, fragment⟩

def readHierarchy (a : Alphabet) (scheme : Option (List Char)) (cs : List Char) : Except Fault Identifier := do
  match cs with
  | '/' :: '/' :: rest =>
    let (authority, rest) ← readAuthority a rest
    readPath a scheme (some authority) rest
  | _ => readPath a scheme none cs

/-- The identifier that a text writes. Without a scheme no colon stands in the first segment of the path. -/
def read (a : Alphabet) (cs : List Char) : Except Fault Identifier := do
  match cs.takeWhile isSchemeChar, cs.dropWhile isSchemeChar with
  | scheme, ':' :: rest =>
    if scheme.head?.any Char.isAlpha then readHierarchy a (some scheme) rest else throw (.unexpected cs)
  | _, _ =>
    let (segment, rest) ← run (fun c => isPathChar a c && c != ':' && c != '/') [] cs
    if rest.head? = some ':' then throw (.unexpected (cs.drop segment.length))
    readHierarchy a none cs

/-- Whether a text is an identifier with a scheme. -/
def isAbsolute (a : Alphabet) (cs : List Char) : Bool :=
  match read a cs with
  | .ok identifier => identifier.scheme.isSome
  | .error _ => false

/-- Whether a text is an identifier with a scheme or without one. -/
def isReference (a : Alphabet) (cs : List Char) : Bool := (read a cs).isOk

/-! ## Writing -/

def toText (identifier : Identifier) : List Char :=
  let part := fun (front : List Char) (part : Option (List Char)) => (part.map (front ++ ·)).getD []
  (identifier.scheme.map (· ++ [':'])).getD [] ++ part ['/', '/'] identifier.authority ++ identifier.path
    ++ part ['?'] identifier.query ++ part ['#'] identifier.fragment

def text (identifier : Identifier) : String := String.ofList identifier.toText

/-! ## Normal form -/

/-- Writes characters that need no `%` without it, and the digits of the others in capitals. -/
def plainOctets : List Char → List Char
  | '%' :: x :: y :: rest =>
    let n := 16 * (Text.hexValue? x).getD 0 + (Text.hexValue? y).getD 0
    if n < 0x80 && isUnreserved ⟨false⟩ (Char.ofNat n) then Char.ofNat n :: plainOctets rest
    else '%' :: x.toUpper :: y.toUpper :: plainOctets rest
  | c :: rest => c :: plainOctets rest
  | [] => []

/-- Removes the segments that are one point or two; two points take the segment before with them. -/
def dropPoints (kept : List (List Char)) : List (List Char) → List (List Char)
  | [] => kept.reverse
  | ['.'] :: [] => ([] :: kept).reverse
  | ['.', '.'] :: [] => ([] :: kept.drop 1).reverse
  | ['.'] :: rest => dropPoints kept rest
  | ['.', '.'] :: rest => dropPoints (kept.drop 1) rest
  | segment :: rest => dropPoints (segment :: kept) rest

def normalPath (path : List Char) : List Char :=
  match path with
  | '/' :: rest => '/' :: (['/'].intercalate (dropPoints [] (Address.split '/' rest)))
  | _ => path

/-- An authority with its host in small letters. -/
def normalAuthority (authority : List Char) : List Char :=
  let user := authority.takeWhile (· ≠ '@')
  if user.length = authority.length then plainOctets (Text.lowerAscii authority)
  else plainOctets user ++ '@' :: plainOctets (Text.lowerAscii (authority.drop (user.length + 1)))

/-- The same identifier in the form in which identifiers are compared. -/
def normal (identifier : Identifier) : Identifier :=
  let path := plainOctets identifier.path
  { scheme := identifier.scheme.map Text.lowerAscii
    authority := identifier.authority.map normalAuthority
    path := if identifier.scheme.isSome then normalPath path else path
    query := identifier.query.map plainOctets
    fragment := identifier.fragment.map plainOctets }

/-! ## Resolving -/

/-- Why a reference means nothing beside an identifier. -/
inductive Conflict where
  | fragment
  | rootless
deriving Repr, DecidableEq

def Conflict.message : Conflict → String
  | fragment => "base URI/IRI with fragment"
  | rootless =>
    "relative reference must be empty or start with '#' when resolved against authority-less base URI/IRI "
      ++ "with rootless path"

/-- The path up to its last slash. -/
def directory (path : List Char) : List Char := (path.reverse.dropWhile (· ≠ '/')).reverse

/-- A path as seen from another one. -/
def joinPaths (base : Identifier) (path : List Char) : List Char :=
  if base.authority.isSome && base.path.isEmpty then '/' :: path else directory base.path ++ path

/-- What a reference means beside an identifier. -/
def beside (base reference : Identifier) : Except Conflict Identifier := do
  if base.fragment.isSome then throw .fragment
  if reference.scheme.isSome then return reference.normal
  if reference.authority.isSome then return normal { reference with scheme := base.scheme }
  let isRootless := base.authority.isNone && base.path.head? ≠ some '/'
  if isRootless && !(reference.path.isEmpty && reference.query.isNone) then throw .rootless
  let path :=
    if reference.path.isEmpty then base.path
    else if reference.path.head? = some '/' then reference.path
    else joinPaths base reference.path
  let query := if reference.path.isEmpty && reference.query.isNone then base.query else reference.query
  return normal { reference with scheme := base.scheme, authority := base.authority, path, query }

/-- Without its fragment. -/
def bare (identifier : Identifier) : Identifier := { identifier with fragment := none }

end Identifier

end CatalogGate.Schema
