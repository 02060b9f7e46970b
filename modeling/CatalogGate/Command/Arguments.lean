-- The commands of the program and what their arguments mean.
import CatalogGate.Command.Endpoint
import CatalogGate.Command.Options
import CatalogGate.Command.Validate

namespace CatalogGate.Command

/-! ## Options -/

def isPath (value : String) : Bool := !value.isEmpty

def isCount (value : String) : Bool := (Text.count? value.toList).isSome

def rulesetFlag (about : String) : Flag :=
  ⟨"ruleset", none, some "OASGATE_RULESET", some "rulesets/custom-ruleset.yaml", false, isPath, "RULESET", about⟩

def serveFlags : List Flag :=
  [⟨"listen", none, some "OASGATE_LISTEN", some "127.0.0.1:3000", false,
      fun value => (Endpoint.read? value).isSome, "LISTEN", "Listen address"⟩,
    rulesetFlag "Ruleset file, loaded once at startup",
    ⟨"log-level", none, some "OASGATE_LOG_LEVEL", some "info", false, fun _ => true, "LOG_LEVEL",
      "Log level (overridden by RUST_LOG)"⟩,
    ⟨"log-format", none, some "OASGATE_LOG_FORMAT", some "json", false,
      fun value => (Log.Format.ofName? value).isSome, "LOG_FORMAT", "Log format (json or pretty)"⟩,
    ⟨"max-upload-bytes", none, some "OASGATE_MAX_UPLOAD_BYTES", some "100000", false, isCount,
      "MAX_UPLOAD_BYTES", "Maximum uploaded document size in bytes"⟩,
    ⟨"request-timeout-secs", none, some "OASGATE_REQUEST_TIMEOUT_SECS", some "30", false, isCount,
      "REQUEST_TIMEOUT_SECS", "Request timeout in seconds"⟩]

def validateFlags : List Flag :=
  [⟨"spec", some 's', none, none, true, isPath, "SPEC", "Document file(s) to validate"⟩,
    ⟨"format", none, none, some "text", false, fun value => value == "text" || value == "json", "FORMAT",
      "Output format"⟩,
    rulesetFlag "Ruleset file"]

def checkRulesetFlags : List Flag := [rulesetFlag "Ruleset file"]

/-! ## Commands -/

structure ServeSettings where
  listen : Endpoint
  ruleset : String
  logLevel : String
  logFormat : Log.Format
  maxUploadBytes : Nat
  requestTimeoutSeconds : Nat

/-- What is to be done. -/
inductive Invocation where
  | serve (settings : ServeSettings)
  | validate (ruleset : String) (format : Validate.Format) (specs : List String)
  | checkRuleset (ruleset : String)

def countOf (value : String) : Nat := (Text.count? value.toList).getD 0

def readServe (environment : String → Option String) (arguments : List String) : Except Stop Invocation := do
  let given ← readFlags serveFlags "serve" environment arguments
  match Endpoint.read? (given.one "listen"), Log.Format.ofName? (given.one "log-format") with
  | some listen, some format =>
    return .serve
      ⟨listen, given.one "ruleset", given.one "log-level", format, countOf (given.one "max-upload-bytes"),
        countOf (given.one "request-timeout-secs")⟩
  | _, _ => throw .usage

def readValidate (environment : String → Option String) (arguments : List String) : Except Stop Invocation := do
  let given ← readFlags validateFlags "validate" environment arguments
  let format := if given.one "format" == "json" then Validate.Format.json else .text
  return .validate (given.one "ruleset") format (given.all "spec")

def readCheckRuleset (environment : String → Option String) (arguments : List String) :
    Except Stop Invocation := do
  let given ← readFlags checkRulesetFlags "check-ruleset" environment arguments
  return .checkRuleset (given.one "ruleset")

/-- Help on the command that is named, or on all if none is. -/
def readHelp : List String → Stop
  | [] => .help none
  | [command] => if ["serve", "validate", "check-ruleset"].contains command then .help (some command) else .usage
  | _ => .usage

/-- What the arguments of the program ask for. -/
def read (environment : String → Option String) (arguments : List String) : Except Stop Invocation :=
  match arguments with
  | [] => .error .usage
  | first :: rest =>
    match Word.ofArgument first with
    | .value "serve" => readServe environment rest
    | .value "validate" => readValidate environment rest
    | .value "check-ruleset" => readCheckRuleset environment rest
    | .value "help" => .error (readHelp rest)
    | .long "help" none => .error (.help none)
    | .long "version" none => .error .version
    | .letters ('h' :: _) => .error (.help none)
    | .letters ('V' :: _) => .error .version
    | _ => .error .usage

end CatalogGate.Command
