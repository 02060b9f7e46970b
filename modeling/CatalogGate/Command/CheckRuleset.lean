-- Loading a ruleset and listing its rules.
import CatalogGate.Command.Basic
import CatalogGate.Ruleset.Loading
import CatalogGate.Text.Columns

namespace CatalogGate.Command.CheckRuleset

/-- The formats that a rule is for. -/
def formatsText (r : Rule) : String :=
  if r.isAgnostic then "any" else ", ".intercalate (r.formats.map OpenApi.Filter.name)

def ruleLine (r : Rule) : String :=
  s!"  {Text.padded 40 r.name} {Text.padded 5 r.importance.name} [" ++ formatsText r ++ "]"

def headline (path : String) (r : Ruleset) : String :=
  s!"✓ {path}: {r.rules.length} rule(s), {r.activeRules.length} active"

def run (read : Files.Reader) (path : String) : Result :=
  match Ruleset.load read path with
  | .error e => ⟨badRuleset, "", s!"✗ {e.message}\n", []⟩
  | .ok r => ⟨0, Text.ofLines (headline path r :: r.rules.map ruleLine), "", [r.readyEvent, r.loadedEvent]⟩

end CatalogGate.Command.CheckRuleset
