-- Parts of the documents that say what a schema is.
import CatalogGate.Schema.Basic

namespace CatalogGate.Schema.Metaschema

def ref (reference : String) : Json := .object [("$ref", .string reference)]

/-- A kind, and what else is said. -/
def typedWith (kind : String) (more : List (String × Json)) : Json := .object (("type", .string kind) :: more)

def typed (kind : String) : Json := typedWith kind []

def string : Json := typed "string"

def boolean : Json := typed "boolean"

def number : Json := typed "number"

def formatted (f : Format) : Json := typedWith "string" [("format", .string f.name)]

def patterned (source : String) : Json := typedWith "string" [("pattern", .string source)]

def arrayOf (s : Json) : Json := typedWith "array" [("items", s)]

/-- An array with at least one element. -/
def someOf (s : Json) : Json := typedWith "array" [("minItems", .ofNat 1), ("items", s)]

/-- An object with members of any name. -/
def objectOf (s : Json) : Json := typedWith "object" [("additionalProperties", s)]

/-- An object whose names are expressions. -/
def patternsOf (s : Json) : Json :=
  typedWith "object"
    [("additionalProperties", s), ("propertyNames", .object [("format", .string Format.regex.name)])]

def anyOf (options : List Json) : Json := .object [("anyOf", .array options)]

def either (a b : Json) : Json := anyOf [a, b]

/-- Everything. -/
def anything : Json := .bool true

/-- Numbers above zero. -/
def positive : Json := typedWith "number" [("exclusiveMinimum", .ofNat 0)]

def count : Json := typedWith "integer" [("minimum", .ofNat 0)]

def kindNames : Json := .object [("enum", .array (Kind.all.map fun k => .string k.name))]

def strings : Json := typedWith "array" [("items", string), ("uniqueItems", .bool true)]

/-- One of the names of kinds, or several. -/
def kindChoice (names : Json) : Json :=
  either names
    (typedWith "array" [("items", names), ("minItems", .ofNat 1), ("uniqueItems", .bool true)])

/-- Members with the same schema. -/
def each (names : List String) (s : Json) : List (String × Json) := names.map fun name => (name, s)

/-- What may be a truth value instead of an object. -/
def schemaKinds : String × Json := ("type", .array [.string "object", .string "boolean"])

/-- The kinds of schemas, and what their members are like. -/
def members (properties : List (String × Json)) : List (String × Json) :=
  [schemaKinds, ("properties", .object properties)]

end CatalogGate.Schema.Metaschema
