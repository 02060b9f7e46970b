-- How documents of the versions of OpenAPI are built. Everything from `paths` down to the responses of an
-- operation is described; what stands below schemas and security is not.
import CatalogGate.Json.Pointer
import CatalogGate.OpenApi.Version
import CatalogGate.Schema.Check

namespace CatalogGate.OpenApi.Structure

open Schema

/-! ## Parts -/

def anyString : Schema := .all [.kinds [.string]]

def anyBoolean : Schema := .all [.kinds [.boolean]]

def anyArray : Schema := .all [.kinds [.array]]

def anyObject : Schema := .all [.kinds [.object]]

def arrayOf (s : Schema) : Schema := .all [.kinds [.array], .itemsFrom 0 s]

def objectWith (names : List String) : Schema := .all [.kinds [.object], .required names]

def choice (options : List String) : Schema := .all [.listed (options.map Json.string)]

/-- Names of extensions. -/
def extension : Pattern.Search × Schema := (.plain (.startingWith "x-"), .anything)

/-- Certain members and extensions, and no others. -/
def members (named : List (String × Schema)) : Keyword := .closed named [extension]

def closedObject (named : List (String × Schema)) : Schema := .all [.kinds [.object], members named]

def closedObjectWith (names : List String) (named : List (String × Schema)) : Schema :=
  .all [.kinds [.object], .required names, members named]

def digit : Pattern := .one .digits

def twoDigits : Pattern := .repeated 2 (some 2) digit

def hundred : Pattern := .one (.between '1' '5')

def default : Pattern := .sequences ("default".toList.map .char)

/-- The members under `paths`: a path item for every name that starts with a slash. -/
def pathsOf (item : Schema) : Schema :=
  .all [.kinds [.object], .closed [] [(.plain (.startingWith "/"), item), extension]]

/-- Members with the same schema. -/
def each (names : List String) (s : Schema) : List (String × Schema) := names.map fun name => (name, s)

/-! ## Version 2 -/

namespace Two

def license : Schema := objectWith ["name"]

def info : Schema :=
  closedObjectWith ["title", "version"]
    [("title", anyString), ("version", anyString), ("description", anyString),
      ("termsOfService", anyString), ("contact", anyObject), ("license", license)]

/-- A status of three digits from 100 to 599, or `default`. -/
def status : Pattern := .whole (.choice (.sequence hundred twoDigits) default)

def responses : Schema :=
  .all [.kinds [.object], .minMembers 1, .closed [] [(.plain status, anyObject), extension]]

def operation : Schema :=
  .all [.kinds [.object], .required ["responses"], .named [("responses", responses)]]

def pathItem : Schema :=
  closedObject
    ([("$ref", anyString), ("parameters", anyArray)]
      ++ each ["get", "put", "post", "delete", "options", "head", "patch"] operation)

/-- A host name with perhaps a number behind a colon. -/
def host : Pattern :=
  .whole (.sequence
    (.several (.one (.complement (.unions
      [.single '\x7b', .single '\x7d', .single '/', .single ' ', .single ':', .single '\\']))))
    (.optional (.sequence (.char ':') (.several digit))))

def hostSource : String := "^[^\x7b\x7d/ :\\\\]+(?::\\d+)?$"

def document : Schema :=
  closedObjectWith ["swagger", "info", "paths"]
    [("swagger", .all [.listed [.string "2.0", .number (.float 2.0)]]), ("info", info),
      ("host", .all [.kinds [.string], .pattern hostSource (.plain host)]),
      ("basePath", .all [.kinds [.string], .pattern "^/" (.plain (.startingWith "/"))]),
      ("schemes", arrayOf (choice ["http", "https", "ws", "wss"])), ("consumes", arrayOf anyString),
      ("produces", arrayOf anyString), ("paths", pathsOf pathItem), ("definitions", anyObject),
      ("parameters", anyObject), ("responses", anyObject), ("securityDefinitions", anyObject),
      ("security", anyArray), ("tags", arrayOf (objectWith ["name"])),
      ("externalDocs", objectWith ["url"])]

end Two

/-! ## Version 3 -/

namespace Three

def contact : Schema := closedObject [("name", anyString), ("url", anyString), ("email", anyString)]

def license : Schema :=
  closedObjectWith ["name"] [("name", anyString), ("identifier", anyString), ("url", anyString)]

def info : Schema :=
  closedObjectWith ["title", "version"]
    [("title", anyString), ("summary", anyString), ("description", anyString),
      ("termsOfService", anyString), ("contact", contact), ("license", license), ("version", anyString)]

def serverVariable : Schema :=
  .all
    [.kinds [.object], .required ["default"],
      .named [("enum", arrayOf anyString), ("default", anyString), ("description", anyString)]]

def server : Schema :=
  closedObjectWith ["url"]
    [("url", anyString), ("description", anyString),
      ("variables", .all [.kinds [.object], .members [] [] serverVariable])]

def externalDocs : Schema := closedObjectWith ["url"] [("description", anyString), ("url", anyString)]

def reference : Schema :=
  .all
    [.kinds [.object], .required ["$ref"],
      .named [("$ref", anyString), ("summary", anyString), ("description", anyString)]]

/-- A reference, if it has a member `$ref`; else something of its own. -/
def orReference (own : List Keyword) : Schema :=
  .all [.kinds [.object], .conditional (.all [.required ["$ref"]]) reference (.all own)]

def response : Schema :=
  orReference
    [.required ["description"],
      members
        [("description", anyString), ("headers", anyObject), ("content", anyObject), ("links", anyObject)]]

def parameter : Schema :=
  orReference
    [.required ["name", "in"],
      members
        [("name", anyString), ("in", choice ["query", "header", "path", "cookie"]),
          ("description", anyString), ("required", anyBoolean), ("deprecated", anyBoolean),
          ("allowEmptyValue", anyBoolean), ("style", anyString), ("explode", anyBoolean),
          ("allowReserved", anyBoolean), ("schema", anyObject), ("example", .anything),
          ("examples", anyObject), ("content", anyObject)]]

/-- A status of three digits from 100 to 599, a class of them such as `4XX`, or `default`. -/
def status : Pattern :=
  .whole (.choice
    (.sequence hundred (.choice twoDigits (.sequence (.char 'X') (.char 'X'))))
    default)

def responses : Schema :=
  .all [.kinds [.object], .minMembers 1, .closed [] [(.plain status, response), extension]]

def operation : Schema :=
  closedObjectWith ["responses"]
    [("tags", arrayOf anyString), ("summary", anyString), ("description", anyString),
      ("externalDocs", externalDocs), ("operationId", anyString), ("parameters", arrayOf parameter),
      ("requestBody", anyObject), ("responses", responses), ("callbacks", anyObject),
      ("deprecated", anyBoolean), ("security", arrayOf anyObject), ("servers", arrayOf server)]

def pathItem : Schema :=
  closedObject
    ([("$ref", anyString), ("summary", anyString), ("description", anyString),
        ("servers", arrayOf server), ("parameters", arrayOf parameter)]
      ++ each ["get", "put", "post", "delete", "options", "head", "patch", "trace"] operation)

def components : Schema :=
  closedObject
    (each
      ["schemas", "responses", "parameters", "examples", "requestBodies", "headers", "securitySchemes",
        "links", "callbacks", "pathItems"] anyObject)

def tag : Schema :=
  closedObjectWith ["name"]
    [("name", anyString), ("description", anyString), ("externalDocs", externalDocs)]

/-- A version 3.0 or 3.1 with perhaps a patch number and a name behind a dash. -/
def version : Pattern :=
  .whole (.sequences
    [.char '3', .char '.', .one (.union (.single '0') (.single '1')),
      .optional (.sequence (.char '.') (.several digit)),
      .optional (.sequence (.char '-') (.several (.one (.complement (.single '\n')))))])

def versionSource : String := "^3\\.[01](\\.\\d+)?(-.+)?$"

/-- The members of a document. -/
def named : List (String × Schema) :=
  [("openapi", .all [.kinds [.string], .pattern versionSource (.plain version)]), ("info", info),
    ("jsonSchemaDialect", anyString), ("servers", arrayOf server), ("paths", pathsOf pathItem),
    ("webhooks", anyObject), ("components", components), ("security", arrayOf anyObject),
    ("tags", arrayOf tag), ("externalDocs", externalDocs)]

/-- The keywords of a document that has to have certain members. -/
def keywords (names : List String) : List Keyword :=
  [.kinds [.object], .required names, members named]

/-- In version 3.0 a document has to have `paths`. -/
def document : Schema := .all (keywords ["openapi", "info", "paths"])

/-- In version 3.1 any of `paths`, `components` and `webhooks` will do. -/
def laterDocument : Schema :=
  .all
    (keywords ["openapi", "info"]
      ++ [.anyOf
        [.all [.required ["paths"]], .all [.required ["components"]], .all [.required ["webhooks"]]]])

end Three

/-! ## Checking -/

/-- The schema of the documents of a version. -/
def ofVersion : Version → Schema
  | .v2 => Two.document
  | .v30 => Three.document
  | .v31 => Three.laterDocument

/-- The code of findings about the structure of a document. -/
def code : Version → String
  | .v2 => "oas2-schema"
  | .v30 => "oas3-schema"
  | .v31 => "oas3-schema"

/-- What is wrong with the structure of a document. The places are read back from their pointers. -/
def violations (v : Version) (root : Json) : List (Json.Path × String) :=
  (Schema.violations .nowhere (ofVersion v) root []).map fun violation =>
    (Json.Pointer.toPath root (Json.Pointer.ofPath violation.path), violation.message)

end CatalogGate.OpenApi.Structure
