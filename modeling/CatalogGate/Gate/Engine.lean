-- What evaluates the documents of a gate.
import CatalogGate.Ruleset.Evaluation

namespace CatalogGate

structure Gate.Engine where
  /-- The diagnostics of a document, or nothing if the evaluation broke down. -/
  evaluate : Document → Option (List Diagnostic)
  /-- How many rules are active. -/
  ruleCount : Nat

/-- The engine that runs a ruleset. It never breaks down. -/
def Ruleset.engine (r : Ruleset) : Gate.Engine := ⟨fun d => some (r.diagnostics d), r.activeRules.length⟩

end CatalogGate
