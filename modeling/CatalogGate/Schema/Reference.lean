-- Where references lead. A reference names a document and a place in it, by a pointer or by a name.
import CatalogGate.Schema.Registry
import CatalogGate.Text.Number
import CatalogGate.Text.Utf8

namespace CatalogGate.Schema

namespace Site

/-- The site of a schema inside of the schema at a site. -/
def enter (s : Site) (v : Json) : Except Problem Site := do
  let edition := ((Layout.editionName? v).bind Edition.ofIdentifier?).getD s.edition
  let s := { s with contents := v, edition }
  match Layout.identifier? edition v with
  | some text => return { s with base := ← Registry.beside s.base text }
  | none => return s

/-- The site to which a reference has led: it may say that it is written in another edition. -/
def arrived (s : Site) : Site :=
  let edition := ((Layout.editionName? s.contents).bind Edition.ofIdentifier?).getD s.edition
  { s with edition, limited := !edition.isSince .of2019 }

end Site

namespace Registry

/-! ## Pointers -/

/-- The bytes of a text, where those written with `%` stand for themselves. -/
def decodedBytes : List Char → List UInt8
  | '%' :: x :: y :: rest =>
    match Text.hexValue? x, Text.hexValue? y with
    | some high, some low => (16 * high + low).toUInt8 :: decodedBytes rest
    | _, _ => '%'.toUInt8 :: decodedBytes (x :: y :: rest)
  | c :: rest => (String.singleton c).toUTF8.toList ++ decodedBytes rest
  | [] => []

/-- The tokens of a pointer. -/
def tokens (pointer : List Char) : Except Problem (List (List Char)) :=
  match Text.decode ⟨(decodedBytes (pointer.drop 1)).toArray⟩ with
  | .ok text => .ok (Address.split '/' text)
  | .error _ => .error (.badPointer (String.ofList pointer))

/-- The value one token further. -/
def step (pointer : List Char) (v : Json) (token : List Char) : Except Problem Json :=
  let found := fun (w : Option Json) =>
    match w with
    | some w => Except.ok w
    | none => .error (.noPlace (String.ofList pointer))
  match v with
  | .array items =>
    match Text.count? token with
    | some i => found items[i]?
    | none => .error (.badIndex (String.ofList token) (String.ofList pointer))
  | v => found (v.get? (String.ofList (Json.Pointer.unescape token)))

/-- Follows the tokens of a pointer. On the way a schema may change the identifier around it; the keys are
those since the last one that did. -/
def walk (pointer : List Char) (e : Edition) (s : Site) (keys : List String) : List (List Char) → Except Problem Site
  | [] => .ok s
  | token :: rest => do
    let v ← step pointer s.contents token
    let keys := keys ++ [String.ofList (Json.Pointer.unescape token)]
    let next := { s with contents := v }
    match if Layout.isSchemaPath e v keys then Layout.identifier? e v else none with
    | some text =>
      let base ← beside s.base text
      walk pointer e { next with base } (if base = s.base then keys else []) rest
    | none => walk pointer e next keys rest

/-! ## Names -/

/-- The anchor with a name in the resource with an identifier, which may be known by another one as well. -/
def anchorAt (r : Registry) (base : Identifier) (name : String) : Except Problem Anchor := do
  match r.anchor? base name with
  | some a => return a
  | none =>
    match (r.resource? base).bind fun resource => Layout.identifier? resource.edition resource.contents with
    | some text =>
      match r.anchor? (← ofText text) name with
      | some a => return a
      | none => throw (.noAnchor name)
    | none => throw (.noAnchor name)

/-- The target of a dynamic name is that of the outermost resource with this name. -/
def outermost (r : Registry) (name : String) (scopes : List Identifier) (target : Resource) : Resource :=
  scopes.foldl (fun target base =>
    match r.anchorAt base name with
    | .ok a => if a.isDynamic then a.target else target
    | .error _ => target) target

/-! ## References -/

/-- What stands before and behind the last number sign. -/
def splitFragment (reference : List Char) : List Char × List Char :=
  let behind := (reference.reverse.takeWhile (· ≠ '#')).reverse
  if behind.length = reference.length then (reference, [])
  else (reference.take (reference.length - behind.length - 1), behind)

/-- The site to which a reference leads from a site. -/
def lookup (r : Registry) (s : Site) (reference : List Char) : Except Problem Site := do
  let (front, fragment) := match reference with
    | '#' :: fragment => ([], fragment)
    | _ => splitFragment reference
  let base ← if reference.head? = some '#' then pure s.base else beside s.base front
  match r.resource? base with
  | none => throw (.absent base .late)
  | some resource =>
    let s := { s.moved base with contents := resource.contents, edition := resource.edition }
    match fragment with
    | [] => return s.arrived
    | '/' :: _ => return (← walk fragment resource.edition s [] (← tokens fragment)).arrived
    | _ =>
      let name := String.ofList fragment
      let a ← r.anchorAt base name
      if a.isDynamic then
        let target := r.outermost name s.scopes a.target
        let s := { s with edition := target.edition }
        return (← s.enter target.contents).arrived
      else return { s with contents := a.target.contents, edition := a.target.edition }.arrived

/-- Whether the reference that goes back to the start of a document may go back further. -/
def goesBack (v : Json) : Bool :=
  match v.get? "$recursiveAnchor" with
  | some (.bool b) => b
  | _ => false

/-- The outermost of several resources, as long as each of them lets a reference go back further. -/
def goBack (r : Registry) (from_ found : Site) : List Identifier → Except Problem Site
  | [] => .ok found
  | base :: rest => do
    let next ← r.lookup from_ base.toText
    if goesBack next.contents then r.goBack from_ next rest else return found

/-- The site to which the reference leads that goes back to the start of a document. -/
def lookupStart (r : Registry) (s : Site) : Except Problem Site := do
  let found ← r.lookup s ['#']
  if goesBack found.contents then r.goBack s found s.scopes else return found

end Registry

end CatalogGate.Schema
