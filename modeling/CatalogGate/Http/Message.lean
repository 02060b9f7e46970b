-- Requests and responses, and the problems that responses tell of.
import CatalogGate.Json.Printer

namespace CatalogGate.Http

structure Request where
  method : String
  /-- A path, and perhaps a query behind it. -/
  target : String
  contentType : Option String
  body : ByteArray

/-- The target without its query. -/
def Request.path (r : Request) : String := String.ofList (r.target.toList.takeWhile fun c => c ≠ '?' ∧ c ≠ '#')

structure Response where
  status : Nat
  contentType : Option String
  body : String
deriving Repr, DecidableEq

namespace Response

/-- A response that only has a status. -/
def empty (status : Nat) : Response := ⟨status, none, ""⟩

def withoutBody (r : Response) : Response := { r with body := "" }

def json (status : Nat) (value : Json) : Response := ⟨status, some "application/json", value.compact⟩

end Response

/-- Why a request could not be served. -/
structure Problem where
  type : String
  title : String
  status : Nat
  detail : Option String
  /-- The path of the request. -/
  place : String
deriving Repr, DecidableEq

namespace Problem

def invalidUpload (detail place : String) : Problem :=
  ⟨"urn:oasgate:error:invalid-upload", "Invalid Upload", 400, some detail, place⟩

def unreadableDocument (detail place : String) : Problem :=
  ⟨"urn:oasgate:error:unreadable-document", "Unreadable Document", 422, some detail, place⟩

def unclassifiableFinding (detail place : String) : Problem :=
  ⟨"urn:oasgate:error:unclassifiable-finding", "Unclassifiable Finding", 422, some detail, place⟩

def publishFailed (detail place : String) : Problem :=
  ⟨"urn:oasgate:error:publish-failed", "Publish Failed", 502, some detail, place⟩

def internalError (place : String) : Problem :=
  ⟨"urn:oasgate:error:internal-error", "Internal Server Error", 500, none, place⟩

def toJson (p : Problem) : Json :=
  .object <|
    [("type", .string p.type), ("title", .string p.title), ("status", .ofNat p.status)]
    ++ (p.detail.map fun detail => ("detail", Json.string detail)).toList
    ++ [("instance", .string p.place)]

def response (p : Problem) : Response := ⟨p.status, some "application/problem+json", p.toJson.compact⟩

end Problem

end CatalogGate.Http
