-- Rulesets from files, and what is reported when one is ready.
import CatalogGate.Files
import CatalogGate.Log.Event
import CatalogGate.Ruleset.Basic
import CatalogGate.Text.Utf8

namespace CatalogGate.Ruleset

/-- The text of a file. -/
def readText (read : Files.Reader) (path : String) : Except Files.Fault (List Char) := do
  match Text.decode (← read path) with
  | .ok text => return text
  | .error _ => throw .notText

/-- The ruleset in a file. -/
def load (read : Files.Reader) (path : String) : Except RulesetError Ruleset :=
  match readText read path with
  | .error fault => .error (.unreadable path fault.message)
  | .ok text => (ofText text).map fun r => ⟨some path, r.rules⟩

/-- How many rules there are and how many of them are active. -/
def counts (r : Ruleset) : List (String × Log.Value) :=
  [("ruleset", .bare r.title), ("rules", .count r.rules.length), ("active", .count r.activeRules.length)]

def readyEvent (r : Ruleset) : Log.Event :=
  ⟨.debug, "oasgate_ruleset::engine", some "rule engine ready", r.counts⟩

def loadedEvent (r : Ruleset) : Log.Event :=
  ⟨.info, "oasgate::report", none, ("event", .text "ruleset_loaded") :: r.counts⟩

end CatalogGate.Ruleset
