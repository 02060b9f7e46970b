-- Handing documents over to a catalog.
import CatalogGate.Digest.Sha256
import CatalogGate.Document.Basic

namespace CatalogGate.Gate

/-- What a catalog confirms. -/
structure Receipt where
  document : String
  sha256 : String
  message : String
deriving Repr, DecidableEq

/-- The receipt for a document, with the digest of its text. -/
def Receipt.ofDocument (d : Document) : Receipt where
  document := d.name
  sha256 := Sha256.hex (Sha256.digest (String.ofList d.text).toUTF8.toList)
  message := s!"OpenAPI document: {d.name} published to API catalog"

/-- Why a catalog does not have a document. -/
inductive PublishError where
  | unavailable (reason : String)
  | rejected (document reason : String)
deriving Repr, DecidableEq

def PublishError.message : PublishError → String
  | unavailable reason => s!"catalog unavailable: {reason}"
  | rejected document reason => s!"catalog rejected '{document}': {reason}"

abbrev Publisher := Document → Except PublishError Receipt

/-- The catalog that takes every document. -/
def catalog : Publisher := fun d => .ok (Receipt.ofDocument d)

end CatalogGate.Gate
