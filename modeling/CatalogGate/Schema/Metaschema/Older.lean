-- What a schema is in the editions before 2019, in one document each.
import CatalogGate.Schema.Metaschema.Parts

namespace CatalogGate.Schema.Metaschema

/-! ## Definitions -/

def root : Json := ref "#"

def defined (name : String) : Json := ref ("#/definitions/" ++ name)

/-- A count that is zero if it is not given. -/
def defaultCount (name : String) : Json :=
  .object [("allOf", .array [defined name, .object [("default", .ofNat 0)]])]

def definitions (counts strings : Json) (countName countDefaultName : String) : String × Json :=
  ("definitions",
    .object
      [("schemaArray", someOf root), (countName, counts), (countDefaultName, defaultCount countName),
        ("simpleTypes", kindNames), ("stringArray", strings)])

def schemaOrSchemas : Json := either root (defined "schemaArray")

def schemaOrStrings : Json := either root (defined "stringArray")

/-- The document of an edition. -/
def document (e : Edition) (identifierKey : String) (more : List (String × Json)) : Json :=
  .object ([("$schema", .string (e.identifier ++ "#")), (identifierKey, .string (e.identifier ++ "#"))] ++ more)

/-! ## The drafts with numbers -/

def draft7 : Json :=
  let most := defined "nonNegativeInteger"
  let least := defined "nonNegativeIntegerDefault0"
  document .draft7 "$id"
    (definitions count strings "nonNegativeInteger" "nonNegativeIntegerDefault0"
      :: members
        ([("$id", formatted .uriReference), ("$schema", formatted .uri), ("$ref", formatted .uriReference),
            ("$comment", string), ("title", string), ("description", string), ("default", anything),
            ("readOnly", boolean), ("examples", arrayOf anything), ("multipleOf", positive)]
          ++ each ["maximum", "exclusiveMaximum", "minimum", "exclusiveMinimum"] number
          ++ [("maxLength", most), ("minLength", least), ("pattern", formatted .regex),
            ("additionalItems", root), ("items", schemaOrSchemas), ("maxItems", most), ("minItems", least),
            ("uniqueItems", boolean), ("contains", root), ("maxProperties", most), ("minProperties", least),
            ("required", defined "stringArray"), ("additionalProperties", root),
            ("definitions", objectOf root), ("properties", objectOf root),
            ("patternProperties", patternsOf root), ("dependencies", objectOf schemaOrStrings),
            ("propertyNames", root), ("const", anything), ("enum", arrayOf anything),
            ("type", kindChoice (defined "simpleTypes"))]
          ++ each ["format", "contentMediaType", "contentEncoding"] string
          ++ each ["if", "then", "else"] root
          ++ each ["allOf", "anyOf", "oneOf"] (defined "schemaArray")
          ++ [("not", root)]))

/-- Values that are listed, each once. -/
def listed : Json := typedWith "array" [("minItems", .ofNat 1), ("uniqueItems", .bool true)]

def draft6 : Json :=
  let most := defined "nonNegativeInteger"
  let least := defined "nonNegativeIntegerDefault0"
  document .draft6 "$id"
    (definitions count strings "nonNegativeInteger" "nonNegativeIntegerDefault0"
      :: members
        ([("$id", formatted .uriReference), ("$schema", formatted .uri), ("$ref", formatted .uriReference),
            ("title", string), ("description", string), ("default", .object []),
            ("examples", arrayOf (.object [])), ("multipleOf", positive)]
          ++ each ["maximum", "exclusiveMaximum", "minimum", "exclusiveMinimum"] number
          ++ [("maxLength", most), ("minLength", least), ("pattern", formatted .regex),
            ("additionalItems", root), ("items", schemaOrSchemas), ("maxItems", most), ("minItems", least),
            ("uniqueItems", boolean), ("contains", root), ("maxProperties", most), ("minProperties", least),
            ("required", defined "stringArray"), ("additionalProperties", root),
            ("definitions", objectOf root), ("properties", objectOf root),
            ("patternProperties", objectOf root), ("dependencies", objectOf schemaOrStrings),
            ("propertyNames", root), ("const", .object []), ("enum", listed),
            ("type", kindChoice (defined "simpleTypes")), ("format", string)]
          ++ each ["allOf", "anyOf", "oneOf"] (defined "schemaArray")
          ++ [("not", root)]))

def draft4 : Json :=
  let most := defined "positiveInteger"
  let least := defined "positiveIntegerDefault0"
  let someStrings := typedWith "array"
    [("items", string), ("minItems", .ofNat 1), ("uniqueItems", .bool true)]
  document .draft4 "id"
    [definitions count someStrings "positiveInteger" "positiveIntegerDefault0",
      ("type", .string "object"),
      ("properties",
        .object
          ([("id", formatted .uri), ("$schema", formatted .uri), ("title", string), ("description", string),
              ("default", .object []),
              ("multipleOf", typedWith "number" [("minimum", .ofNat 0), ("exclusiveMinimum", .bool true)]),
              ("maximum", number), ("exclusiveMaximum", boolean), ("minimum", number),
              ("exclusiveMinimum", boolean), ("maxLength", most), ("minLength", least),
              ("pattern", formatted .regex), ("additionalItems", either boolean root),
              ("items", schemaOrSchemas), ("maxItems", most), ("minItems", least), ("uniqueItems", boolean),
              ("maxProperties", most), ("minProperties", least), ("required", defined "stringArray"),
              ("additionalProperties", either boolean root)]
            ++ each ["definitions", "properties", "patternProperties"] (objectOf root)
            ++ [("dependencies", objectOf schemaOrStrings), ("enum", listed),
              ("type", kindChoice (defined "simpleTypes")), ("format", string)]
            ++ each ["allOf", "anyOf", "oneOf"] (defined "schemaArray")
            ++ [("not", root)])),
      ("dependencies",
        .object
          [("exclusiveMaximum", .array [.string "maximum"]), ("exclusiveMinimum", .array [.string "minimum"])])]

end CatalogGate.Schema.Metaschema
