-- What a schema is in the editions from 2019 on: a document for each vocabulary, and one for all of them.
import CatalogGate.Schema.Metaschema.Parts

namespace CatalogGate.Schema.Metaschema

/-- A document of an edition under a name. It lets others stand in for itself. -/
def vocabulary (e : Edition) (name : String) (more : List (String × Json)) : String × Json :=
  let identifier := e.place ++ name
  let opening := match e with
    | .of2019 => ("$recursiveAnchor", .bool true)
    | _ => ("$dynamicAnchor", .string "meta")
  (identifier, .object ([("$schema", .string e.identifier), ("$id", .string identifier), opening] ++ more))

/-- The reference to a schema of any vocabulary. -/
def any : Edition → Json
  | .of2019 => .object [("$recursiveRef", .string "#")]
  | _ => .object [("$dynamicRef", .string "#meta")]

def ownDefinition (name : String) : Json := ref ("#/$defs/" ++ name)

/-! ## Vocabularies with the same members in both editions -/

def counts : List (String × Json) :=
  let count := ownDefinition "nonNegativeInteger"
  let countOrZero := ownDefinition "nonNegativeIntegerDefault0"
  [("multipleOf", positive)]
    ++ each ["maximum", "exclusiveMaximum", "minimum", "exclusiveMinimum"] number
    ++ [("maxLength", count), ("minLength", countOrZero), ("pattern", formatted .regex), ("maxItems", count),
      ("minItems", countOrZero), ("uniqueItems", boolean), ("maxContains", count), ("minContains", count),
      ("maxProperties", count), ("minProperties", countOrZero), ("required", ownDefinition "stringArray"),
      ("dependentRequired", objectOf (ownDefinition "stringArray"))]

/-- The keywords that are about values as a whole. -/
def wholeValues (typeFirst : Bool) : List (String × Json) :=
  let type := ("type", kindChoice (ownDefinition "simpleTypes"))
  let values := [("const", anything), ("enum", arrayOf anything)]
  if typeFirst then type :: values else values ++ [type]

def validationDefinitions : String × Json :=
  ("$defs",
    .object
      [("nonNegativeInteger", count),
        ("nonNegativeIntegerDefault0",
          .object [("$ref", .string "#/$defs/nonNegativeInteger"), ("default", .ofNat 0)]),
        ("simpleTypes", kindNames), ("stringArray", strings)])

def annotations (e : Edition) : String × Json :=
  vocabulary e "meta/meta-data"
    (members
      [("title", string), ("description", string), ("default", anything), ("deprecated", boolean),
        ("readOnly", boolean), ("writeOnly", boolean), ("examples", arrayOf anything)])

def formats (e : Edition) (name : String) : String × Json := vocabulary e name (members [("format", string)])

def contents (e : Edition) : String × Json :=
  vocabulary e "meta/content"
    (members [("contentEncoding", string), ("contentMediaType", string), ("contentSchema", any e)])

/-- The schemas of an array. -/
def arrayDefinition (e : Edition) : String × Json := ("$defs", .object [("schemaArray", someOf (any e))])

/-- What older schemas may still hold. -/
def deprecated (e : Edition) : List (String × Json) :=
  [("definitions", objectOf (any e)),
    ("dependencies", objectOf (either (any e) (ref "meta/validation#/$defs/stringArray")))]

/-- The document that joins vocabularies. -/
def joined (e : Edition) (names : List String) (more : List (String × Json)) : String × Json :=
  vocabulary e "schema" (("allOf", .array (names.map ref)) :: members (deprecated e ++ more))

/-! ## 2019 -/

def core2019 : String × Json :=
  vocabulary .of2019 "meta/core"
    (members
      [("$id",
          typedWith "string"
            [("format", .string Format.uriReference.name), ("pattern", .string "^[^#]*#?$")]),
        ("$schema", formatted .uri), ("$anchor", patterned "^[A-Za-z][-A-Za-z0-9.:_]*$"),
        ("$ref", formatted .uriReference), ("$recursiveRef", formatted .uriReference),
        ("$recursiveAnchor", boolean),
        ("$vocabulary",
          typedWith "object" [("propertyNames", formatted .uri), ("additionalProperties", boolean)]),
        ("$comment", string), ("$defs", objectOf (any .of2019))])

def applicator2019 : String × Json :=
  let e := Edition.of2019
  vocabulary e "meta/applicator"
    (members
      (each ["additionalItems", "unevaluatedItems"] (any e)
        ++ [("items", either (any e) (ownDefinition "schemaArray"))]
        ++ each ["contains", "additionalProperties", "unevaluatedProperties"] (any e)
        ++ [("properties", objectOf (any e)), ("patternProperties", patternsOf (any e)),
          ("dependentSchemas", objectOf (any e))]
        ++ each ["propertyNames", "if", "then", "else"] (any e)
        ++ each ["allOf", "anyOf", "oneOf"] (ownDefinition "schemaArray")
        ++ [("not", any e)])
      ++ [arrayDefinition e])

def validation2019 : String × Json :=
  vocabulary .of2019 "meta/validation" (members (counts ++ wholeValues false) ++ [validationDefinitions])

/-- The document that joins the others comes behind them. -/
def documents2019 : List (String × Json) :=
  let e := Edition.of2019
  [core2019, applicator2019, validation2019, annotations e, formats e "meta/format", contents e,
    joined e
      ["meta/core", "meta/applicator", "meta/validation", "meta/meta-data", "meta/format", "meta/content"] []]

/-! ## 2020 -/

def core2020 : String × Json :=
  let reference := ownDefinition "uriReferenceString"
  let anchor := ownDefinition "anchorString"
  vocabulary .of2020 "meta/core"
    (members
      [("$id",
          .object
            [("$ref", .string "#/$defs/uriReferenceString"), ("pattern", .string "^[^#]*#?$")]),
        ("$schema", ownDefinition "uriString"), ("$ref", reference), ("$anchor", anchor),
        ("$dynamicRef", reference), ("$dynamicAnchor", anchor),
        ("$vocabulary",
          typedWith "object"
            [("propertyNames", ownDefinition "uriString"), ("additionalProperties", boolean)]),
        ("$comment", string), ("$defs", objectOf (any .of2020))]
      ++ [("$defs",
        .object
          [("anchorString", patterned "^[A-Za-z_][-A-Za-z0-9._]*$"), ("uriString", formatted .uri),
            ("uriReferenceString", formatted .uriReference)])])

def applicator2020 : String × Json :=
  let e := Edition.of2020
  vocabulary e "meta/applicator"
    (members
      ([("prefixItems", ownDefinition "schemaArray")]
        ++ each ["items", "contains", "additionalProperties"] (any e)
        ++ [("properties", objectOf (any e)), ("patternProperties", patternsOf (any e)),
          ("dependentSchemas", objectOf (any e))]
        ++ each ["propertyNames", "if", "then", "else"] (any e)
        ++ each ["allOf", "anyOf", "oneOf"] (ownDefinition "schemaArray")
        ++ [("not", any e)])
      ++ [arrayDefinition e])

def unevaluated2020 : String × Json :=
  vocabulary .of2020 "meta/unevaluated"
    (members (each ["unevaluatedItems", "unevaluatedProperties"] (any .of2020)))

def validation2020 : String × Json :=
  vocabulary .of2020 "meta/validation" (members (wholeValues true ++ counts) ++ [validationDefinitions])

def documents2020 : List (String × Json) :=
  let e := Edition.of2020
  [core2020, applicator2020, unevaluated2020, validation2020, annotations e,
    formats e "meta/format-annotation", formats e "meta/format-assertion", contents e,
    joined e
      ["meta/core", "meta/applicator", "meta/unevaluated", "meta/validation", "meta/meta-data",
        "meta/format-annotation", "meta/content"]
      [("$recursiveAnchor", ref "meta/core#/$defs/anchorString"),
        ("$recursiveRef", ref "meta/core#/$defs/uriReferenceString")]]

end CatalogGate.Schema.Metaschema
