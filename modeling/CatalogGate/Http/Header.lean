-- The headers of a part of a form.
import CatalogGate.Http.MediaType
import CatalogGate.Text.Utf8

namespace CatalogGate.Http

structure Header where
  /-- In small letters. -/
  name : String
  value : List UInt8
deriving Repr, DecidableEq

namespace Header

def isBlank (b : UInt8) : Bool := b == 32 || b == 9

def charOf (b : UInt8) : Char := Char.ofNat b.toNat

def isNameByte (b : UInt8) : Bool := b < 128 && MediaType.isTokenChar (charOf b)

def isValueByte (b : UInt8) : Bool := b == 9 || (32 ≤ b && b != 127)

/-- One line, and what follows it. -/
def readLine? (bytes : List UInt8) : Option (Header × List UInt8) :=
  let name := bytes.takeWhile isNameByte
  match bytes.drop name.length with
  | 58 :: rest =>
    if name.isEmpty then none
    else
      let value := rest.takeWhile isValueByte
      let trimmed := (value.dropWhile isBlank).reverse.dropWhile isBlank
      let header : Header := ⟨(String.ofList (name.map charOf)).toLower, trimmed.reverse⟩
      match rest.drop value.length with
      | 13 :: 10 :: more => some (header, more)
      | 10 :: more => some (header, more)
      | _ => none
  | _ => none

/-- Headers up to an empty line. There may be as many as the fuel says. -/
def readAll? (read : List Header) : Nat → List UInt8 → Option (List Header)
  | _, 13 :: 10 :: _ => some read.reverse
  | _, 13 :: _ => none
  | _, 10 :: _ => some read.reverse
  | 0, _ => none
  | fuel + 1, bytes =>
    match readLine? bytes with
    | some (header, rest) => readAll? (header :: read) fuel rest
    | none => none

/-- The value of the last header with a name. -/
def find? (headers : List Header) (name : String) : Option (List UInt8) :=
  (headers.reverse.find? (·.name == name)).map Header.value

/-! ## What headers say about a part -/

/-- The text that bytes encode. -/
def text? (bytes : List UInt8) : Option String :=
  match Text.decode ⟨bytes.toArray⟩ with
  | .ok cs => some (String.ofList cs)
  | .error _ => none

def quote : UInt8 := 34

def backslash : UInt8 := 92

def semicolon : UInt8 := 59

def equalsSign : UInt8 := 61

/-- The white space of ASCII. -/
def isSpace (b : UInt8) : Bool := b == 32 || b == 9 || b == 10 || b == 12 || b == 13

/-- What follows a byte that may have white space in front of it. -/
def afterMark? (mark : UInt8) (bytes : List UInt8) : Option (List UInt8) :=
  match bytes.dropWhile isSpace with
  | b :: rest => if b == mark then some rest else none
  | [] => none

/-- Up to the first quote without a backslash in front of it. A backslash in front of a quote falls away. -/
def upToQuote? (read : List UInt8) : List UInt8 → Option (List UInt8)
  | [] => none
  | b :: rest =>
    if b == quote then
      match read with
      | c :: more => if c == backslash then upToQuote? (quote :: more) rest else some read.reverse
      | [] => some []
    else upToQuote? (b :: read) rest

/-- A value in quotes, or one that goes up to the next semicolon or blank. -/
def attributeValue? (bytes : List UInt8) : Option (List UInt8) :=
  match afterMark? quote bytes with
  | some rest => upToQuote? [] rest
  | none => some ((bytes.dropWhile isSpace).takeWhile fun b => b ≠ semicolon ∧ b ≠ 32)

/-- What follows the first free place of a name. The place is free if white space, a semicolon or nothing
stands in front of it, or the name itself does, at a place that is not free. -/
def afterName? (name : List UInt8) (before : Option UInt8) (skip : Nat) : List UInt8 → Option (List UInt8)
  | [] => none
  | b :: rest =>
    match skip with
    | skip + 1 => afterName? name (if skip = 0 then none else some b) skip rest
    | 0 =>
      if name.isPrefixOf (b :: rest) then
        if before.all fun c => isSpace c || c == semicolon then some ((b :: rest).drop name.length)
        else afterName? name (if name.length ≤ 1 then none else some b) (name.length - 1) rest
      else afterName? name (some b) 0 rest

/-- An attribute of the disposition of a part: a name, an equals sign and a value. -/
def disposition? (headers : List Header) (name : String) : Option String := do
  let value ← find? headers "content-disposition"
  let rest ← afterName? name.toUTF8.toList none 0 value
  text? (← attributeValue? (← afterMark? equalsSign rest))

/-- The media type that a text says. Only what can be printed, and tabs, may stand in it. -/
def mediaType? (cs : List Char) : Option MediaType :=
  if cs.all MediaType.isQuotedChar then MediaType.read? cs else none

/-- The media type of a part, if it can be read. -/
def contentType? (headers : List Header) : Option String := do
  let value ← find? headers "content-type"
  let m ← mediaType? (value.map charOf)
  return m.text

end Header

end CatalogGate.Http
