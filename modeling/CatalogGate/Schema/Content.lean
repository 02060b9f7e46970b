-- Texts that hold documents of their own: how they are encoded, and of which type they are.
import CatalogGate.Json.Reader
import CatalogGate.Text.Base64
import CatalogGate.Text.Utf8

namespace CatalogGate.Schema

inductive MediaType where
  | json
deriving Repr, DecidableEq

inductive Encoding where
  | base64
deriving Repr, DecidableEq

namespace MediaType

def name : MediaType → String
  | json => "application/json"

def ofName? (name : String) : Option MediaType := [json].find? (·.name == name)

/-- Whether a text is a document of the type. -/
def admits : MediaType → String → Bool
  | json, text => (Json.read? text).isSome

end MediaType

namespace Encoding

def name : Encoding → String
  | base64 => "base64"

def ofName? (name : String) : Option Encoding := [base64].find? (·.name == name)

/-- The bytes that a text stands for. -/
def decode? : Encoding → String → Option ByteArray
  | base64, text => (Text.Base64.decode? text.toList).map fun bytes => ⟨bytes.toArray⟩

end Encoding

end CatalogGate.Schema
