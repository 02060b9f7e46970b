-- The versions of the OpenAPI format, how a document says which one it is in, and the names by which a
-- rule chooses among them.
import CatalogGate.Json.Basic

namespace CatalogGate.OpenApi

inductive Version where
  | v2
  | v30
  | v31
deriving Repr, DecidableEq

namespace Version

def all : List Version := [v2, v30, v31]

def displayName : Version → String
  | v2 => "OpenAPI 2.0 (Swagger)"
  | v30 => "OpenAPI 3.0.x"
  | v31 => "OpenAPI 3.1.x"

def isThree : Version → Bool
  | v2 => false
  | v30 => true
  | v31 => true

/-- Whether a text names a minor version: nothing follows it, or a point or a dash does. -/
def isMinor (minor version : List Char) : Bool :=
  minor.isPrefixOf version &&
    match version.drop minor.length with
    | [] => true
    | c :: _ => c == '.' || c == '-'

/-- Whether the value of `swagger` says 2.0. -/
def isTwo : Json → Bool
  | .string s => s == "2.0"
  | .number n => n.toFloat == 2.0
  | _ => false

/-- The version that the value of `openapi` names. -/
def ofText? (version : String) : Option Version :=
  if isMinor "3.0".toList version.toList then some v30
  else if isMinor "3.1".toList version.toList then some v31
  else none

/-- The version of a document. A member `swagger` decides alone. -/
def detect (root : Json) : Option Version :=
  match root with
  | .object members =>
    match Json.lookup "swagger" members with
    | some value => if isTwo value then some v2 else none
    | none =>
      match Json.lookup "openapi" members with
      | some (.string version) => ofText? version
      | _ => none
  | _ => none

end Version

/-- What a rule can restrict itself to. -/
inductive Filter where
  | two
  | three
  | threeZero
  | threeOne
deriving Repr, DecidableEq

namespace Filter

def ofName? (name : String) : Option Filter :=
  if name == "oas2" then some two
  else if name == "oas3" then some three
  else if name == "oas3.0" || name == "oas3_0" then some threeZero
  else if name == "oas3.1" || name == "oas3_1" then some threeOne
  else none

def name : Filter → String
  | two => "oas2"
  | three => "oas3"
  | threeZero => "oas3.0"
  | threeOne => "oas3.1"

def admits : Filter → Version → Bool
  | two, v => v == .v2
  | three, v => v.isThree
  | threeZero, v => v == .v30
  | threeOne, v => v == .v31

end Filter

end CatalogGate.OpenApi
