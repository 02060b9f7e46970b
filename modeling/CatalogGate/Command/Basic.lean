-- What a command leaves behind: an exit code, texts, and what it reported on the way.
import CatalogGate.Log.Event

namespace CatalogGate.Command

structure Result where
  exit : Nat
  output : String
  errors : String
  events : List Log.Event

/-- The exit code of a ruleset that cannot be loaded. -/
def badRuleset : Nat := 2

end CatalogGate.Command
