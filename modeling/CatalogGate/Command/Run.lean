-- Running the program with its arguments.
import CatalogGate.Command.CheckRuleset
import CatalogGate.Command.Help
import CatalogGate.Command.Serve

namespace CatalogGate.Command

/-- What the program needs from around it. -/
structure World where
  read : Files.Reader
  bind : Serve.Binder
  environment : String → Option String

/-- The environment variables that say something to the program. -/
def variableNames : List String :=
  "RUST_LOG" :: (serveFlags ++ validateFlags ++ checkRulesetFlags).filterMap Flag.variableName

/-- The files that a command reads. -/
def Invocation.paths : Invocation → List String
  | serve settings => [settings.ruleset]
  | validate ruleset _ specs => ruleset :: specs
  | checkRuleset ruleset => [ruleset]

/-- Runs the command that arguments ask for, or shows why there is none. -/
def run (w : World) (arguments : List String) : Result :=
  match read w.environment arguments with
  | .error stop => Help.resultOf w.environment stop
  | .ok (.serve settings) => Serve.run w.read w.bind w.environment settings
  | .ok (.validate ruleset format specs) => Validate.run w.read ruleset format specs
  | .ok (.checkRuleset ruleset) => CheckRuleset.run w.read ruleset

end CatalogGate.Command
