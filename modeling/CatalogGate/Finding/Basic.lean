-- Diagnostics as an engine reports them, and findings, which are diagnostics whose level is known and
-- whose range is in order.
import CatalogGate.Document.Position
import CatalogGate.Finding.Severity
import CatalogGate.Json.Path

namespace CatalogGate

/-- What reported something: a name or a number. -/
inductive Code where
  | number (value : Int)
  | name (text : String)
deriving Repr, DecidableEq

def Code.text : Code → String
  | number value => toString value
  | name text => text

def Code.toJson : Code → Json
  | number value => .number (.int value)
  | name text => .string text

structure Diagnostic where
  code : Code
  message : String
  path : Json.Path
  range : Range
  level : Int
deriving Repr, DecidableEq

structure Finding where
  code : Code
  message : String
  path : Json.Path
  range : Range
  severity : Severity
deriving Repr, DecidableEq

/-! ## Classification -/

/-- Why a diagnostic is no finding. -/
inductive ClassificationError where
  | unknownLevel (code : Code) (level : Int)
  | invertedRange (code : Code)
deriving Repr, DecidableEq

def ClassificationError.message : ClassificationError → String
  | unknownLevel code level => s!"diagnostic '{code.text}' has unknown severity level {level}"
  | invertedRange code => s!"diagnostic '{code.text}' has a range that ends before it starts"

namespace Finding

/-- An unknown level is noticed before a range that ends before it starts. -/
def classify (d : Diagnostic) : Except ClassificationError Finding :=
  match Severity.ofLevel? d.level with
  | none => .error (.unknownLevel d.code d.level)
  | some severity =>
    if d.range.WellFormed then .ok ⟨d.code, d.message, d.path, d.range, severity⟩
    else .error (.invertedRange d.code)

/-- The code of the finding that a document is in no known format. -/
def unrecognizedFormat : String := "unrecognized-format"

/-- Whether this finding alone keeps a document from being published. -/
def failsGate (f : Finding) : Bool := f.severity == .error || f.code == .name unrecognizedFormat

end Finding

/-! ## JSON -/

def Position.toJson (p : Position) : Json :=
  .object [("line", .ofNat p.line), ("character", .ofNat p.character)]

def Range.toJson (r : Range) : Json := .object [("start", r.start.toJson), ("end", r.stop.toJson)]

def Finding.toJson (f : Finding) : Json :=
  .object
    [("code", f.code.toJson), ("message", .string f.message),
      ("path", .array (f.path.map Json.Step.toJson)), ("range", f.range.toJson),
      ("severity", .string f.severity.label)]

end CatalogGate
