-- The states of an upload on its way through the gate, and the steps between them.
namespace CatalogGate.Gate

inductive State where
  | received
  | validating
  | rejected
  | validated
  | published
  | publishFailed
deriving Repr, DecidableEq

namespace State

def all : List State := [received, validating, rejected, validated, published, publishFailed]

def name : State → String
  | received => "received"
  | validating => "validating"
  | rejected => "rejected"
  | validated => "validated"
  | published => "published"
  | publishFailed => "publish_failed"

def ofName? (name : String) : Option State := all.find? (·.name == name)

/-- Whether an upload may go from one state straight to another. -/
def canAdvance : State → State → Bool
  | received, validating => true
  | validating, rejected => true
  | validating, validated => true
  | validated, published => true
  | validated, publishFailed => true
  | _, _ => false

def isTerminal : State → Bool
  | rejected => true
  | published => true
  | publishFailed => true
  | _ => false

theorem isTerminal_iff (s : State) : s.isTerminal = true ↔ ∀ t, s.canAdvance t = false := by
  cases s <;> simp [isTerminal, canAdvance]
  · exact ⟨validating, rfl⟩
  · exact ⟨rejected, rfl⟩
  · exact ⟨published, rfl⟩

theorem ofName?_name (s : State) : ofName? s.name = some s := by cases s <;> decide

end State

end CatalogGate.Gate
