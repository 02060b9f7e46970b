-- Places in schema documents, with what a reference that stands there depends on.
import CatalogGate.Json.Basic
import CatalogGate.Schema.Edition
import CatalogGate.Schema.Identifier

namespace CatalogGate.Schema

structure Site where
  contents : Json
  /-- The identifier of the resource around the place. -/
  base : Identifier
  /-- The identifiers of the resources through which a value came here, the innermost one first. -/
  scopes : List Identifier
  edition : Edition
  /-- Whether only references are known among the keywords of the editions from 2019 on. -/
  limited : Bool

namespace Site

/-- The same place as seen from a resource that a reference has entered. -/
def moved (s : Site) (base : Identifier) : Site :=
  { s with base, scopes := if s.scopes.isEmpty || base ≠ s.base then s.base :: s.scopes else s.scopes }

end Site

end CatalogGate.Schema
