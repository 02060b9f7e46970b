-- Forms in several parts. A boundary stands in front of every part and behind the last one.
import CatalogGate.Http.Header
import CatalogGate.Text.Quoted

namespace CatalogGate.Http

/-- Why a form cannot be read on. -/
inductive FormFault where
  | boundary
  | tooLarge
  | incomplete
  | headers
  /-- The boundary behind a part is missing. -/
  | incompletePart (name : Option String)
deriving Repr, DecidableEq

def FormFault.message : FormFault → String
  | boundary => "Invalid \x60boundary\x60 for \x60multipart/form-data\x60 request"
  | tooLarge => "Request payload is too large"
  | incomplete => "incomplete multipart stream"
  | headers => "failed to read headers"
  | incompletePart name =>
    let name := Text.quoted (name.getD "<unknown>")
    s!"field {name} received with incomplete data"

/-- What the headers of a part say about it. -/
structure Part where
  name : Option String
  filename : Option String
  contentType : Option String
deriving Repr, DecidableEq

/-- A part and its data, in the chunks in which it arrives. -/
structure Section where
  part : Part
  chunks : List (List UInt8)
deriving Repr, DecidableEq

/-- A form as far as it can be read, and why it cannot be read on if it cannot. Data that is cut off is that of
the last part. -/
structure Form where
  sections : List Section
  fault : Option FormFault
deriving Repr, DecidableEq

namespace Form

/-- What stands before the first place of a pattern, and what follows from there on. -/
def splitAt? (pattern read : List UInt8) : List UInt8 → Option (List UInt8 × List UInt8)
  | [] => if pattern.isEmpty then some (read.reverse, []) else none
  | b :: rest =>
    if pattern.isPrefixOf (b :: rest) then some (read.reverse, b :: rest)
    else splitAt? pattern (b :: read) rest

/-- The boundary that a content type names. -/
def boundary? (contentType : Option String) : Option String := do
  let m ← Header.mediaType? (← contentType).toList
  if m.kind == "multipart".toList && m.base == "form-data".toList then m.parameter? "boundary" else none

def lineEnd : List UInt8 := [13, 10]

/-- Two dashes and the boundary. -/
def delimiter (boundary : String) : List UInt8 := ("--" ++ boundary).toUTF8.toList

def maxHeaders : Nat := 32

/-- The headers of a part, and its data and all that follows. -/
def readHeaders (bytes : List UInt8) : Except FormFault (Part × List UInt8) :=
  match splitAt? (lineEnd ++ lineEnd) [] bytes with
  | none => .error .incomplete
  | some (head, rest) =>
    match Header.readAll? [] maxHeaders (head ++ lineEnd ++ lineEnd) with
    | none => .error .headers
    | some headers =>
      let part : Part :=
        ⟨Header.disposition? headers "name", Header.disposition? headers "filename", Header.contentType? headers⟩
      .ok (part, rest.drop 4)

/-- The next part, from the boundary in front of it on, or nothing behind the last one. Blanks may follow
a boundary. -/
def nextPart (boundary : String) (bytes : List UInt8) : Except FormFault (Option (Part × List UInt8)) :=
  let rest := bytes.drop (delimiter boundary).length
  match rest with
  | 45 :: 45 :: _ => .ok none
  | _ =>
    if rest.length < 2 then .error .incomplete
    else
      match rest.dropWhile Header.isBlank with
      | 13 :: 10 :: more => do return some (← readHeaders more)
      | _ => .error .incomplete

/-- The data of a part, and what follows from the boundary behind it on. -/
def partData (boundary : String) (part : Part) (bytes : List UInt8) :
    Except FormFault (List UInt8 × List UInt8) :=
  match splitAt? (lineEnd ++ delimiter boundary) [] bytes with
  | some (data, rest) => .ok (data, rest.drop 2)
  | none => .error (.incompletePart part.name)

/-- From the first boundary on. What stands before it does not count. -/
def start (boundary : String) (body : List UInt8) : Except FormFault (List UInt8) :=
  match splitAt? (delimiter boundary) [] body with
  | some (_, rest) => .ok rest
  | none => .error .incomplete

/-- The form from a boundary on. The data of a part is one chunk, and nothing arrives of data that is cut off. -/
def read (boundary : String) : Nat → List UInt8 → Form
  | 0, _ => ⟨[], some .incomplete⟩
  | fuel + 1, bytes =>
    match nextPart boundary bytes with
    | .error fault => ⟨[], some fault⟩
    | .ok none => ⟨[], none⟩
    | .ok (some (part, rest)) =>
      match partData boundary part rest with
      | .error fault => ⟨[⟨part, []⟩], some fault⟩
      | .ok (data, rest) =>
        let form := read boundary fuel rest
        ⟨⟨part, [data]⟩ :: form.sections, form.fault⟩

/-- The form in the body of a request that may have a number of bytes. -/
def ofRequest (limit : Nat) (contentType : Option String) (body : ByteArray) : Form :=
  match boundary? contentType with
  | none => ⟨[], some .boundary⟩
  | some boundary =>
    if limit < body.size then ⟨[], some .tooLarge⟩
    else
      let bytes := body.toList
      match start boundary bytes with
      | .error fault => ⟨[], some fault⟩
      | .ok rest => read boundary (bytes.length + 1) rest

end Form

end CatalogGate.Http
