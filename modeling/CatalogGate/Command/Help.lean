-- What is shown instead of running a command: help, the version, or how the program is used.
import CatalogGate.Command.Arguments
import CatalogGate.Command.Basic
import CatalogGate.Program

namespace CatalogGate.Command.Help

/-- The commands and what they do. -/
def commands : List (String × String) :=
  [("serve", "Run the HTTP server"),
    ("validate", "Validate OpenAPI document(s) against the ruleset without a server"),
    ("check-ruleset", "Load a ruleset and list its rules"),
    ("help", "Print this message or the help of the given subcommand(s)")]

def flagsOf (command : String) : List Flag :=
  match command with
  | "serve" => serveFlags
  | "validate" => validateFlags
  | _ => checkRulesetFlags

def usageOf (command : String) : String :=
  s!"Usage: {Program.name} {command} [OPTIONS]" ++ (if command == "validate" then " --spec <SPEC>..." else "")

/-- Two names side by side, or a blank place for a short one that is missing. -/
def flagHead (f : Flag) : String :=
  let letter := match f.letter with
    | some c => s!"-{c}, "
    | none => "    "
  s!"  {letter}--{f.name} <{f.valueName}>" ++ (if f.isMany then "..." else "")

/-- What a flag is for, where its value comes from, and which values it has. -/
def flagText (environment : String → Option String) (f : Flag) : String :=
  let source := match f.variableName with
    | some name =>
      let value := (environment name).getD ""
      s!" [env: {name}={value}]"
    | none => ""
  let fallback := match f.fallback with
    | some value => s!" [default: {value}]"
    | none => ""
  f.about ++ source ++ fallback ++ (if f.name == "format" then " [possible values: text, json]" else "")

/-- Heads and texts in two columns. -/
def columns (rows : List (String × String)) : List String :=
  let width := (rows.map fun row => row.1.length).foldl max 0
  rows.map fun (head, text) => s!"{Text.padded width head}  {text}"

/-- Every text on a line of its own below its head. -/
def stacked (rows : List (String × String)) : List String :=
  rows.flatMap fun (head, text) => [head, "          " ++ text]

def overview : List String :=
  ["OpenAPI validation and publish gate", "", s!"Usage: {Program.name} <COMMAND>", "", "Commands:"]
    ++ columns (commands.map fun (name, about) => ("  " ++ name, about))
    ++ ["", "Options:", "  -h, --help     Print help", "  -V, --version  Print version"]

def pageOf (environment : String → Option String) (command : String) : List String :=
  let rows := (flagsOf command).map (fun f => (flagHead f, flagText environment f)) ++ [("  -h, --help", "Print help")]
  [((commands.find? (·.1 == command)).map Prod.snd).getD "", "", usageOf command, "", "Options:"]
    ++ (if command == "serve" then stacked rows else columns rows)

/-- What the program does when it runs no command. -/
def resultOf (environment : String → Option String) : Stop → Result
  | .usage => ⟨2, "", Text.ofLines overview, []⟩
  | .version => ⟨0, s!"{Program.name} {Program.version}\n", "", []⟩
  | .help none => ⟨0, Text.ofLines overview, "", []⟩
  | .help (some command) => ⟨0, Text.ofLines (pageOf environment command), "", []⟩

end CatalogGate.Command.Help
