-- The schemas of the documents of each version as they are written. They say what `Structure` says, with references to
-- definitions where that has the schemas themselves.
import CatalogGate.Json.Basic
import CatalogGate.OpenApi.Version

namespace CatalogGate.OpenApi.SchemaText

/-! ## Parts -/

def texts (options : List String) : Json := .array (options.map Json.string)

def typed (kind : String) (more : List (String × Json)) : Json := .object (("type", .string kind) :: more)

def anyString : Json := typed "string" []

def anyBoolean : Json := typed "boolean" []

def anyArray : Json := typed "array" []

def anyObject : Json := typed "object" []

def anything : Json := .object []

def patterned (source : String) : Json := typed "string" [("pattern", .string source)]

def arrayOf (s : Json) : Json := typed "array" [("items", s)]

def objectWith (names : List String) : Json := typed "object" [("required", texts names)]

def choice (options : List String) : Json := .object [("enum", texts options)]

def requiring (name : String) : Json := .object [("required", texts [name])]

def definitionPlace (name : String) : String := "#/definitions/" ++ name

/-- What the definition with a name says. -/
def defined (name : String) : Json := .object [("$ref", .string (definitionPlace name))]

/-- Names of extensions. -/
def extension : String × Json := ("^x-", anything)

/-- Certain members and extensions, and no others. -/
def members (named : List (String × Json)) : List (String × Json) :=
  [("properties", .object named), ("patternProperties", .object [extension]), ("additionalProperties", .bool false)]

def closedObject (named : List (String × Json)) : Json := typed "object" (members named)

def closedObjectWith (names : List String) (named : List (String × Json)) : Json :=
  typed "object" (("required", texts names) :: members named)

/-- Members whose names match an expression, and extensions. -/
def matching (source : String) (s : Json) : List (String × Json) :=
  [("patternProperties", .object [(source, s), extension]), ("additionalProperties", .bool false)]

def pathsOf (item : Json) : Json := typed "object" (matching "^/" item)

def responsesOf (status : String) (s : Json) : Json :=
  typed "object" (("minProperties", .ofNat 1) :: matching status s)

/-- Members with the same schema. -/
def each (names : List String) (s : Json) : List (String × Json) := names.map fun name => (name, s)

/-- A whole schema with its definitions. -/
def document (title : String) (names : List String) (named definitions : List (String × Json)) : Json :=
  .object
    ([("$schema", .string "http://json-schema.org/draft-07/schema#"), ("title", .string title),
        ("type", .string "object"), ("required", texts names)]
      ++ members named ++ [("definitions", .object definitions)])

/-! ## Version 2 -/

namespace Two

def license : Json := objectWith ["name"]

def info : Json :=
  closedObjectWith ["title", "version"]
    [("title", anyString), ("version", anyString), ("description", anyString), ("termsOfService", anyString),
      ("contact", anyObject), ("license", license)]

def statusSource : String := "^([1-5]\\d\x7b2\x7d|default)$"

def hostSource : String := "^[^\x7b\x7d/ :\\\\]+(?::\\d+)?$"

def operation : Json :=
  typed "object"
    [("required", texts ["responses"]), ("properties", .object [("responses", responsesOf statusSource anyObject)])]

def pathItem : Json :=
  closedObject
    ([("$ref", anyString), ("parameters", anyArray)]
      ++ each ["get", "put", "post", "delete", "options", "head", "patch"] (defined "operation"))

def named : List (String × Json) :=
  [("swagger", .object [("enum", .array [.string "2.0", .number (.float 2.0)])]), ("info", info),
    ("host", patterned hostSource), ("basePath", patterned "^/"),
    ("schemes", arrayOf (choice ["http", "https", "ws", "wss"])), ("consumes", arrayOf anyString),
    ("produces", arrayOf anyString), ("paths", pathsOf (defined "pathItem")), ("definitions", anyObject),
    ("parameters", anyObject), ("responses", anyObject), ("securityDefinitions", anyObject), ("security", anyArray),
    ("tags", arrayOf (objectWith ["name"])), ("externalDocs", objectWith ["url"])]

def definitions : List (String × Json) := [("pathItem", pathItem), ("operation", operation)]

def schema : Json :=
  document "OpenAPI 2.0 (Swagger) document structure" ["swagger", "info", "paths"] named definitions

end Two

/-! ## Version 3 -/

namespace Three

def contact : Json := closedObject [("name", anyString), ("url", anyString), ("email", anyString)]

def license : Json := closedObjectWith ["name"] [("name", anyString), ("identifier", anyString), ("url", anyString)]

def info : Json :=
  closedObjectWith ["title", "version"]
    [("title", anyString), ("summary", anyString), ("description", anyString), ("termsOfService", anyString),
      ("contact", contact), ("license", license), ("version", anyString)]

def serverVariable : Json :=
  typed "object"
    [("required", texts ["default"]),
      ("properties", .object [("enum", arrayOf anyString), ("default", anyString), ("description", anyString)])]

def server : Json :=
  closedObjectWith ["url"]
    [("url", anyString), ("description", anyString),
      ("variables", typed "object" [("additionalProperties", serverVariable)])]

def pathItem : Json :=
  closedObject
    ([("$ref", anyString), ("summary", anyString), ("description", anyString), ("servers", arrayOf (defined "server")),
        ("parameters", arrayOf (defined "parameterOrReference"))]
      ++ each ["get", "put", "post", "delete", "options", "head", "patch", "trace"] (defined "operation"))

def operation : Json :=
  closedObjectWith ["responses"]
    [("tags", arrayOf anyString), ("summary", anyString), ("description", anyString),
      ("externalDocs", defined "externalDocs"), ("operationId", anyString),
      ("parameters", arrayOf (defined "parameterOrReference")), ("requestBody", anyObject),
      ("responses", defined "responses"), ("callbacks", anyObject), ("deprecated", anyBoolean),
      ("security", arrayOf anyObject), ("servers", arrayOf (defined "server"))]

def statusSource : String := "^([1-5](\\d\x7b2\x7d|XX)|default)$"

/-- A reference, if it has a member `$ref`; else something of its own. -/
def orReference (own : List (String × Json)) : Json :=
  typed "object" [("if", requiring "$ref"), ("then", defined "reference"), ("else", .object own)]

def response : Json :=
  orReference
    (("required", texts ["description"])
      :: members
        [("description", anyString), ("headers", anyObject), ("content", anyObject), ("links", anyObject)])

def parameter : Json :=
  orReference
    (("required", texts ["name", "in"])
      :: members
        [("name", anyString), ("in", choice ["query", "header", "path", "cookie"]), ("description", anyString),
          ("required", anyBoolean), ("deprecated", anyBoolean), ("allowEmptyValue", anyBoolean),
          ("style", anyString), ("explode", anyBoolean), ("allowReserved", anyBoolean), ("schema", anyObject),
          ("example", anything), ("examples", anyObject), ("content", anyObject)])

def components : Json :=
  closedObject
    (each
      ["schemas", "responses", "parameters", "examples", "requestBodies", "headers", "securitySchemes", "links",
        "callbacks", "pathItems"] anyObject)

def tag : Json :=
  closedObjectWith ["name"]
    [("name", anyString), ("description", anyString), ("externalDocs", defined "externalDocs")]

def externalDocs : Json := closedObjectWith ["url"] [("description", anyString), ("url", anyString)]

def reference : Json :=
  typed "object"
    [("required", texts ["$ref"]),
      ("properties", .object [("$ref", anyString), ("summary", anyString), ("description", anyString)])]

def versionSource : String := "^3\\.[01](\\.\\d+)?(-.+)?$"

def named : List (String × Json) :=
  [("openapi", patterned versionSource), ("info", defined "info"), ("jsonSchemaDialect", anyString),
    ("servers", arrayOf (defined "server")), ("paths", defined "paths"), ("webhooks", anyObject),
    ("components", defined "components"), ("security", arrayOf anyObject), ("tags", arrayOf (defined "tag")),
    ("externalDocs", defined "externalDocs")]

def definitions : List (String × Json) :=
  [("info", info), ("server", server), ("paths", pathsOf (defined "pathItem")), ("pathItem", pathItem),
    ("operation", operation), ("responses", responsesOf statusSource (defined "responseOrReference")),
    ("responseOrReference", response), ("parameterOrReference", parameter), ("components", components), ("tag", tag),
    ("externalDocs", externalDocs), ("reference", reference)]

def schema : Json := document "OpenAPI 3.x document structure" ["openapi", "info", "paths"] named definitions

end Three

/-! ## All versions -/

/-- A member of an object that is set. -/
def set (key : String) (value : Json) : Json → Json
  | .object members => .object (Json.put key value members)
  | v => v

/-- In version 3.1 any of `paths`, `components` and `webhooks` will do. -/
def relaxed (schema : Json) : Json :=
  set "anyOf" (.array [requiring "paths", requiring "components", requiring "webhooks"])
    (set "required" (texts ["openapi", "info"]) schema)

def ofVersion : Version → Json
  | .v2 => Two.schema
  | .v30 => Three.schema
  | .v31 => relaxed Three.schema

end CatalogGate.OpenApi.SchemaText
