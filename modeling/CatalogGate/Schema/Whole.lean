-- Whole schemas: documents that have been checked and read, with all that their references need.
import CatalogGate.Schema.Metaschema

namespace CatalogGate.Schema

structure Whole where
  origin : Origin
  root : Schema

namespace Whole

/-- The schema that a value writes. It is gathered, then checked by the schema of schemas, then read. -/
def ofJson (v : Json) : Except Problem Whole := do
  let edition ← Registry.editionOf .of2020 v
  let base ← match Layout.identifier? edition v with
    | some text => Registry.ofText text
    | none => pure Registry.home
  let registry ← Metaschema.registry.add base ⟨v, edition⟩
  match ← Metaschema.firstViolation? edition v with
  | some violation => throw (.violation violation)
  | none =>
    let origin : Origin := ⟨registry, true⟩
    let start : Site := ⟨v, base, [], edition, !edition.isSince .of2019⟩
    return ⟨origin, ← origin.read (← start.enter v)⟩

/-- What is wrong with a value. -/
def violations (w : Whole) (v : Json) : List Violation := w.origin.violations w.root v

end Whole

end CatalogGate.Schema
