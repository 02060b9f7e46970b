-- The findings of one document in the order in which they were reported, and what they decide.
import CatalogGate.Finding.Basic

namespace CatalogGate

structure Assessment where
  findings : List Finding
deriving Repr, DecidableEq

namespace Assessment

/-- The findings of all diagnostics, or what is wrong with the first that is none. -/
def ofDiagnostics (diagnostics : List Diagnostic) : Except ClassificationError Assessment := do
  return ⟨← diagnostics.mapM Finding.classify⟩

/-- Whether some finding keeps the document from being published. -/
def hasErrors (a : Assessment) : Bool := a.findings.any Finding.failsGate

def worst? (a : Assessment) : Option Severity := Severity.worst? (a.findings.map Finding.severity)

def count (a : Assessment) (s : Severity) : Nat := a.findings.countP (·.severity == s)

def size (a : Assessment) : Nat := a.findings.length

def toJson (a : Assessment) : Json := .array (a.findings.map Finding.toJson)

end Assessment

end CatalogGate
