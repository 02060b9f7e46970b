-- Validating files: one report for each of them, and a summary.
import CatalogGate.Command.Basic
import CatalogGate.Gate.Run
import CatalogGate.Json.Printer
import CatalogGate.Ruleset.Loading
import CatalogGate.Text.Columns

namespace CatalogGate.Command.Validate

inductive Format where
  | text
  | json
deriving Repr, DecidableEq

/-- What there is to say about a file: its findings, or why there are none. -/
inductive Verdict where
  | assessed (assessment : Assessment)
  | failed (failure : String)

structure Report where
  file : String
  verdict : Verdict

namespace Report

def isValid (r : Report) : Bool :=
  match r.verdict with
  | .assessed a => !a.hasErrors
  | .failed _ => false

def findings (r : Report) : List Finding :=
  match r.verdict with
  | .assessed a => a.findings
  | .failed _ => []

/-- How many findings are against the file. A failure counts as one. -/
def errors (r : Report) : Nat :=
  match r.verdict with
  | .assessed a => a.findings.countP Finding.failsGate
  | .failed _ => 1

/-- How many findings are not against the file. -/
def warnings (r : Report) : Nat := r.findings.length - r.findings.countP Finding.failsGate

def failure? (r : Report) : Option String :=
  match r.verdict with
  | .assessed _ => none
  | .failed failure => some failure

end Report

/-! ## Files -/

/-- The last name of a path, or the whole path if there is none. -/
def nameOf (path : String) : String :=
  match ((Files.Tree.names path).filter fun name => name != "" && name != ".").getLast? with
  | some name => if name == ".." then path else name
  | none => path

/-- The report on a file, whether it could be read, and what was reported. -/
def checkFile (read : Files.Reader) (engine : Gate.Engine) (path : String) :
    Report × Bool × List Log.Event :=
  match read path with
  | .error fault => (⟨path, .failed s!"cannot read file: {fault.message}"⟩, false, [])
  | .ok bytes =>
    let upload : Upload := ⟨nameOf path, none, bytes⟩
    let result := Gate.validate engine upload
    let verdict := match result with
      | .ok (_, a) => .assessed a
      | .error failure => .failed failure.message
    (⟨path, verdict⟩, true, Gate.validationEvents upload result)

/-! ## Text -/

/-- One line on a finding. Places are counted from one. -/
def findingLine (f : Finding) : String :=
  let start := f.range.start
  let head := s!"{start.line + 1}:{start.character + 1}  {Text.padded 11 f.severity.tag}  "
    ++ s!"{f.code.text}  {f.message}"
  if f.path.isEmpty then head else s!"{head}  {f.path.text}"

def headline (r : Report) : String :=
  if r.isValid then
    if r.findings.isEmpty then s!"✓ {r.file} is valid"
    else s!"✓ {r.file} is valid (with {r.warnings} warning(s))"
  else s!"✗ {r.file} has {r.errors} error(s)"

def reportLines (r : Report) : List String :=
  match r.failure? with
  | some failure => [s!"✗ {r.file}: {failure}"]
  | none => headline r :: r.findings.map fun f => "  " ++ findingLine f

def countValid (reports : List Report) : Nat := reports.countP Report.isValid

def textOf (reports : List Report) : String :=
  let valid := countValid reports
  Text.ofLines <| reports.flatMap reportLines
    ++ ["", s!"validated {reports.length} spec(s): {valid} valid, {reports.length - valid} invalid"]

/-! ## JSON -/

def Report.toJson (r : Report) : Json :=
  .object <|
    [("file", .string r.file), ("valid", .bool r.isValid), ("errors", .ofNat r.errors),
      ("warnings", .ofNat r.warnings), ("findings", .array (r.findings.map Finding.toJson))]
    ++ (r.failure?.map fun failure => ("failure", Json.string failure)).toList

def jsonOf (reports : List Report) : Json :=
  let valid := countValid reports
  .object
    [("results", .array (reports.map Report.toJson)),
      ("summary", .object
        [("total", .ofNat reports.length), ("valid", .ofNat valid),
          ("invalid", .ofNat (reports.length - valid))])]

/-! ## The command -/

/-- A file that cannot be read weighs more than one with errors. -/
def exitCode (allRead : Bool) (reports : List Report) : Nat :=
  if !allRead then 3 else if reports.all Report.isValid then 0 else 1

def run (read : Files.Reader) (ruleset : String) (format : Format) (paths : List String) : Result :=
  match Ruleset.load read ruleset with
  | .error e => ⟨badRuleset, "", s!"error: {e.message}\n", []⟩
  | .ok r =>
    let checked := paths.map (checkFile read r.engine)
    let reports := checked.map (·.1)
    let exit := exitCode (checked.all (·.2.1)) reports
    let events := r.readyEvent :: r.loadedEvent :: checked.flatMap (·.2.2)
    match format with
    | .json => ⟨exit, (jsonOf reports).pretty ++ "\n", "", events⟩
    | .text => ⟨exit, "", textOf reports, events⟩

/-! ## Laws -/

theorem exitCode_eq_zero_iff (allRead : Bool) (reports : List Report) :
    exitCode allRead reports = 0 ↔ allRead = true ∧ reports.all Report.isValid = true := by
  unfold exitCode
  cases allRead <;> cases h : reports.all Report.isValid <;> simp

end CatalogGate.Command.Validate
