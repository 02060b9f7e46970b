-- The schemas of schemas, one for each edition. The first violation of it is why a value is no schema.
import CatalogGate.Schema.Metaschema.Newer
import CatalogGate.Schema.Metaschema.Older
import CatalogGate.Schema.Reader

namespace CatalogGate.Schema.Metaschema

/-- All documents with their identifiers. -/
def documents : List (String × Edition × Json) :=
  [(Edition.draft4.identifier, .draft4, draft4), (Edition.draft6.identifier, .draft6, draft6),
    (Edition.draft7.identifier, .draft7, draft7)]
    ++ documents2019.map (fun (name, v) => (name, .of2019, v))
    ++ documents2020.map fun (name, v) => (name, .of2020, v)

/-- Adds a document. One that cannot be added is left out. -/
def addDocument (r : Registry) (name : String) (e : Edition) (v : Json) : Registry :=
  match Registry.ofText name.toList with
  | .ok identifier => (r.add identifier ⟨v, e⟩).toOption.getD r
  | .error _ => r

/-- The registry of all schemas of schemas. -/
def registry : Registry := documents.foldl (fun r (name, e, v) => addDocument r name e v) .empty

/-- In the editions from 2019 on, formats are remarks only. -/
def origin (e : Edition) : Origin := ⟨registry, !e.isSince .of2019⟩

/-- The first thing that is wrong with a value as a schema. -/
def firstViolation? (e : Edition) (v : Json) : Except Problem (Option Violation) := do
  let identifier ← Registry.ofText e.identifier.toList
  match registry.resource? identifier with
  | some resource =>
    let schema ← (origin e).read ⟨resource.contents, identifier, [], e, !e.isSince .of2019⟩
    return ((origin e).violations schema v).head?
  | none => return none

end CatalogGate.Schema.Metaschema
