-- Where schemas stand inside of a schema, edition by edition, and the names that a schema gives itself.
import CatalogGate.Json.Basic
import CatalogGate.Schema.Edition
import CatalogGate.Text.Blank

namespace CatalogGate.Schema.Layout

def isObject : Json → Bool
  | .object _ => true
  | _ => false

/-- What stands under a key. -/
inductive Part where
  | schema
  | schemas
  /-- Schemas as the members of an object. -/
  | named
  /-- One schema or several. -/
  | schemaOrSchemas
  /-- As members of an object, schemas and lists of names. -/
  | dependencies
deriving Repr, DecidableEq

/-- What stands under a key, if schemas do. -/
def part? (e : Edition) (key : String) : Option Part :=
  let since (first : Edition) (part : Part) : Option Part := if e.isSince first then some part else none
  match key with
  | "additionalProperties" => some .schema
  | "not" => some .schema
  | "allOf" => some .schemas
  | "anyOf" => some .schemas
  | "oneOf" => some .schemas
  | "definitions" => some .named
  | "patternProperties" => some .named
  | "properties" => some .named
  | "items" => some (if e = .of2020 then .schema else .schemaOrSchemas)
  | "additionalItems" => if e = .of2020 then none else some .schema
  | "dependencies" => if e.isSince .of2019 then none else some .dependencies
  | "contains" => since .draft6 .schema
  | "propertyNames" => since .draft6 .schema
  | "if" => since .draft7 .schema
  | "then" => since .draft7 .schema
  | "else" => since .draft7 .schema
  | "contentSchema" => since .of2019 .schema
  | "unevaluatedItems" => since .of2019 .schema
  | "unevaluatedProperties" => since .of2019 .schema
  | "$defs" => since .of2019 .named
  | "dependentSchemas" => since .of2019 .named
  | "prefixItems" => since .of2020 .schemas
  | _ => none

/-- The schemas of a part. What is no object has no parts and no names. -/
def schemasOf (part : Part) (v : Json) : List Json :=
  match part, v with
  | .schema, v => [v]
  | .schemas, .array items => items
  | .schemas, _ => []
  | .named, .object members => members.map Prod.snd
  | .named, _ => []
  | .schemaOrSchemas, .array items => items
  | .schemaOrSchemas, v => [v]
  | .dependencies, .object members => members.map Prod.snd
  | .dependencies, _ => []

/-- The schemas inside of a schema, one level down. -/
def parts (e : Edition) : Json → List Json
  | .object members => members.flatMap fun (key, v) => ((part? e key).map (schemasOf · v)).getD []
  | _ => []

/-- Whether keys lead from a schema to a schema inside of it, which is a certain value. -/
def isSchemaPath (e : Edition) (v : Json) : List String → Bool
  | [] => true
  | key :: rest =>
    match part? e key with
    | some .schema => isSchemaPath e v rest
    | some .schemaOrSchemas => isObject v || isSchemaPath e v rest
    | some .dependencies => isObject v
    | some _ =>
      match rest with
      | [] => false
      | _ :: rest => isSchemaPath e v rest
    | none => false

/-! ## Names -/

def textMember? (key : String) (v : Json) : Option (List Char) :=
  match v.get? key with
  | some (.string s) => some s.toList
  | _ => none

/-- The identifier that a schema gives itself. In older editions a name inside of the document is none, and a
schema that refers to another one has none. -/
def identifier? (e : Edition) (v : Json) : Option (List Char) :=
  let text := textMember? (if e = .draft4 then "id" else "$id") v
  let text :=
    if e.isSince .of2019 then text
    else if (v.get? "$ref").isSome then none
    else text.filter fun cs => cs.head? ≠ some '#'
  text.map (Text.dropEndWhile (· = '#'))

/-- A name inside of a document. A dynamic one may mean another place, as a value comes there. -/
structure Name where
  name : String
  isDynamic : Bool
deriving Repr, DecidableEq

/-- The names that a schema gives itself inside of its document. -/
def names (e : Edition) (v : Json) : List Name :=
  let plain (key : String) := ((textMember? key v).map fun cs => Name.mk (String.ofList cs) false).toList
  let marked (key : String) : List Name :=
    match textMember? key v with
    | some ('#' :: rest) => [⟨String.ofList rest, false⟩]
    | _ => []
  match e with
  | .draft4 => marked "id"
  | .draft6 => marked "$id"
  | .draft7 => marked "$id"
  | .of2019 => plain "$anchor"
  | .of2020 =>
    plain "$anchor"
      ++ ((textMember? "$dynamicAnchor" v).map fun cs => Name.mk (String.ofList cs) true).toList

/-- The edition that a schema says it is written in, if any. -/
def editionName? (v : Json) : Option String :=
  (textMember? "$schema" v).map fun cs => String.ofList (Text.dropEndWhile (· = '#') cs)

end CatalogGate.Schema.Layout
