-- Registries: the schema documents that references can lead to, and the names inside of them.
import CatalogGate.Json.Measure
import CatalogGate.Json.Pointer
import CatalogGate.Schema.Layout
import CatalogGate.Schema.Problem

namespace CatalogGate.Schema

/-- A schema that has an identifier, or a part of one. -/
structure Resource where
  contents : Json
  edition : Edition

/-- A name inside of a resource. -/
structure Anchor where
  base : Identifier
  name : String
  isDynamic : Bool
  target : Resource

/-- Of several resources with one identifier, and of several anchors with one name, the first one counts. -/
structure Registry where
  resources : List (Identifier × Resource)
  anchors : List Anchor

namespace Registry

def empty : Registry := ⟨[], []⟩

def resource? (r : Registry) (identifier : Identifier) : Option Resource :=
  (r.resources.find? (·.1 = identifier)).map Prod.snd

def anchor? (r : Registry) (base : Identifier) (name : String) : Option Anchor :=
  r.anchors.find? fun a => a.name == name && a.base = base

def addResource (r : Registry) (identifier : Identifier) (resource : Resource) : Registry :=
  { r with resources := (identifier, resource) :: r.resources }

/-- How many values all resources hold. -/
def size (r : Registry) : Nat := r.resources.foldl (fun n (_, resource) => n + resource.contents.size) 0

/-! ## Identifiers -/

/-- What a reference means beside an identifier. -/
def beside (base : Identifier) (reference : List Char) : Except Problem Identifier :=
  match Identifier.read ⟨false⟩ reference with
  | .error fault => .error (.badReference reference fault)
  | .ok identifier => (base.beside identifier).mapError (.conflict reference base)

/-- The identifier of a document that has none. -/
def home : Identifier := ⟨some "json-schema".toList, some [], ['/'], none, none⟩

/-- An identifier that stands beside nothing. -/
def ofText (text : List Char) : Except Problem Identifier :=
  match Identifier.read ⟨false⟩ text with
  | .error fault => .error (.badReference text fault)
  | .ok identifier =>
    if identifier.scheme.isSome then .ok identifier.normal
    else (home.beside identifier).mapError (.conflict text home)

/-! ## References to other documents -/

/-- Whether a reference leads to one of the schemas of schemas, which are always there. -/
def isKnown (reference : List Char) : Bool := Edition.all.any fun e => e.place.toList.isPrefixOf reference

/-- The value to which a pointer leads from a value on. -/
def pointed? (v : Json) (pointer : List Char) : Option Json :=
  match pointer with
  | '/' :: _ => v.at? (Json.Pointer.toPath v pointer)
  | _ => none

mutual

/-- The documents to which a schema itself refers, but not the schemas inside of it. A reference to a place in
the same schema counts for what stands there. -/
def externals (base : Identifier) : Nat → Json → Except Problem (List Identifier)
  | 0, _ => .ok []
  | fuel + 1, v => do
    if base.scheme = some "urn".toList then return []
    let byReference ← externalsUnder base fuel "$ref" v
    if base = home then return byReference
    return byReference ++ (← externalsUnder base fuel "$schema" v)

/-- The documents to which one member refers. -/
def externalsUnder (base : Identifier) (fuel : Nat) (key : String) (v : Json) : Except Problem (List Identifier) :=
  match Layout.textMember? key v with
  | none => .ok []
  | some reference =>
    if isKnown reference || reference = ['#'] then .ok []
    else
      match reference with
      | '#' :: pointer =>
        match fuel, pointed? v pointer with
        | fuel + 1, some w => externals base fuel w
        | _, _ => .ok []
      | _ => return [(← beside base.bare reference).bare]

end

/-! ## Gathering -/

/-- A schema that has not been looked at yet, with the identifier around it. -/
structure Pending where
  base : Identifier
  resource : Resource

/-- The edition of a schema inside of another one. -/
def editionOf (around : Edition) (v : Json) : Except Problem Edition :=
  match Layout.editionName? v with
  | none => .ok around
  | some name =>
    match Edition.ofIdentifier? name with
    | some e => .ok e
    | none => .error (.unknownEdition name)

/-- Adds what a schema says about itself: the identifier around its parts comes with it. -/
def look (r : Registry) (p : Pending) : Except Problem (Registry × Identifier) := do
  let (contents, edition) := (p.resource.contents, p.resource.edition)
  let (r, base) ←
    match Layout.identifier? edition contents with
    | some text => do
      let base ← beside p.base text
      pure (r.addResource base p.resource, base)
    | none => pure (r, p.base)
  let anchors := (Layout.names edition contents).map fun n => Anchor.mk base n.name n.isDynamic p.resource
  return ({ r with anchors := anchors.reverse ++ r.anchors }, base)

/-- Looks at schemas and the schemas inside of them, the outer ones first. -/
def gather : Nat → Registry → List Identifier → List Pending → Except Problem (Registry × List Identifier)
  | 0, r, wanted, _ => .ok (r, wanted)
  | _ + 1, r, wanted, [] => .ok (r, wanted)
  | fuel + 1, r, wanted, p :: rest => do
    let (r, base) ← r.look p
    let contents := p.resource.contents
    let wanted := wanted ++ (← externals base (2 * contents.depth + 2) contents)
    let inner ← (Layout.parts p.resource.edition contents).mapM fun v => do
      return Pending.mk base ⟨v, ← editionOf p.resource.edition v⟩
    gather fuel r wanted (rest ++ inner)

/-- Why a document cannot be had that is not there. -/
def absence (identifier : Identifier) : Absence :=
  let scheme := String.ofList (identifier.scheme.getD [])
  if scheme = "http" ∨ scheme = "https" then .network identifier.text
  else if scheme = "file" then .file
  else .scheme scheme

/-- Adds a document under an identifier. All documents to which it refers have to be there. -/
def add (r : Registry) (base : Identifier) (document : Resource) : Except Problem Registry := do
  let pending := [Pending.mk base document]
  let (r, wanted) ← (r.addResource base document).gather (document.contents.size + 1) [] pending
  match wanted.find? fun identifier => (r.resource? identifier).isNone with
  | some identifier => throw (.absent identifier (absence identifier))
  | none => return r

end Registry

end CatalogGate.Schema
