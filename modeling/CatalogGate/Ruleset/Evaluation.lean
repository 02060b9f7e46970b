-- What a ruleset finds in a document: first what is wrong with its structure, then what the rules find.
import CatalogGate.OpenApi.Structure
import CatalogGate.Rule.Evaluation
import CatalogGate.Ruleset.Basic
import CatalogGate.Yaml.Node.Json

namespace CatalogGate.Ruleset

/-- The code of the finding that a text is no YAML. -/
def parserCode : String := "parser"

/-- From a place to the end of its line, or only the place if the line ends before it. -/
def restOfLine (d : Document) (start : Position) : Range :=
  let stop := d.endOfLine start.line
  if start ≤ stop then ⟨start, stop⟩ else .point start

def yamlDiagnostic (d : Document) (e : Yaml.Error) : Diagnostic :=
  let range := match e.offset with
    | some offset => restOfLine d (d.positionAt offset)
    | none => .zero
  ⟨.name parserCode, e.message, [], range, 0⟩

def unrecognizedMessage : String :=
  "The provided document does not match any of the registered formats ["
    ++ ", ".intercalate (OpenApi.Version.all.map OpenApi.Version.displayName) ++ "]"

/-- What is wrong with the structure of a document, or that it is in no known format. -/
def structureDiagnostics (version : Option OpenApi.Version) (root : Json) (outline : Outline) :
    List Diagnostic :=
  match version with
  | some v =>
    (OpenApi.Structure.violations v root).map fun (path, message) =>
      ⟨.name (OpenApi.Structure.code v), message, path, outline.rangeOf path, 0⟩
  | none => [⟨.name Finding.unrecognizedFormat, unrecognizedMessage, [], .zero, 1⟩]

/-- What the rules for a version find. -/
def ruleDiagnostics (r : Ruleset) (version : Option OpenApi.Version) (root : Json) (outline : Outline) :
    List Diagnostic :=
  (r.activeRules.filter (·.appliesTo version)).flatMap fun rule => rule.diagnostics root outline

/-- All diagnostics of a document. A text that is no YAML has only one. -/
def diagnostics (r : Ruleset) (d : Document) : List Diagnostic :=
  match Yaml.parse (String.ofList d.text) with
  | .error e => [yamlDiagnostic d e]
  | .ok root =>
    let outline := Outline.ofDocument d
    let version := OpenApi.Version.detect root
    structureDiagnostics version root outline ++ r.ruleDiagnostics version root outline

/-! ## Laws -/

theorem diagnostics_of_noYaml (r : Ruleset) (d : Document) (e : Yaml.Error)
    (h : Yaml.parse (String.ofList d.text) = .error e) : r.diagnostics d = [yamlDiagnostic d e] := by
  simp [diagnostics, h]

end CatalogGate.Ruleset
