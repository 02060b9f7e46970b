-- Rulesets: rules in the order in which they are written. One that loads can be run.
import CatalogGate.Rule.Reader
import CatalogGate.Ruleset.Entries

namespace CatalogGate

structure Ruleset where
  /-- The file that it comes from. -/
  source : Option String
  rules : List Rule

/-- Why there is no ruleset. -/
inductive RulesetError where
  | unreadable (path reason : String)
  | noYaml (error : Yaml.Error)
  | rule (name : String) (problem : Rule.Problem)

def RulesetError.message : RulesetError → String
  | unreadable path reason => s!"cannot read ruleset {path}: {reason}"
  | noYaml error => s!"invalid ruleset: {error.message}"
  | rule name problem => s!"rule '{name}': {problem.message}"

namespace Ruleset

/-- The rules of a text. The first one that is wrong is why none are read. -/
def ofText (text : List Char) : Except RulesetError Ruleset := do
  let entries ← (Yaml.Content.ofText text).rules.mapError .noYaml
  let rules ← entries.mapM fun (name, value) => (Rule.read name value).mapError (.rule name)
  return ⟨none, rules⟩

/-- How a ruleset is named in messages. -/
def title (r : Ruleset) : String := r.source.getD "<inline>"

/-- The rules that are not switched off. -/
def activeRules (r : Ruleset) : List Rule := r.rules.filter Rule.isEnabled

end Ruleset

end CatalogGate
