-- Reading rules from JSON values.
import CatalogGate.Query.Reader
import CatalogGate.Rule.Basic

namespace CatalogGate.Rule

/-- What is wrong with the shape of a rule. -/
inductive ShapeProblem where
  | mismatch (m : Json.Mismatch)
  | noGiven
  | noChecks
  | invalidField (field : String)

def ShapeProblem.message : ShapeProblem → String
  | mismatch m => m.message
  | noGiven => "'given' must name at least one path"
  | noChecks => "'then' must contain at least one check"
  | invalidField field => s!"invalid field '{field}'"

/-- Why a rule cannot be used. -/
inductive Problem where
  | shape (problem : ShapeProblem)
  | unknownFunction (function : String)
  | options (function : String) (problem : Function.OptionsProblem)
  | query (text : String) (problem : QueryError)
  | pattern (source : String) (fault : Pattern.Fault)
  | importance (text : String)
  | format (name : String)

/-- The text of a problem behind the name of the rule. -/
def Problem.message : Problem → String
  | shape problem => problem.message
  | unknownFunction function => s!"unknown function '{function}'"
  | options function problem => s!"invalid options for '{function}': {problem.message}"
  | query text problem => s!"invalid path '{text}': {problem.message}"
  | pattern source fault => s!"invalid pattern '{source}': {fault.message}"
  | importance text => s!"unknown severity '{text}'"
  | format name => s!"unknown format '{name}'"

/-! ## Fields -/

/-- The pieces between points. -/
def segmentsOf (text : String) : List String :=
  (text.toList.foldr (fun c (pieces : List (List Char)) =>
    if c = '.' then [] :: pieces
    else
      match pieces with
      | piece :: more => (c :: piece) :: more
      | [] => [[c]]) [[]]).map String.ofList

/-- The field that a text names. Without a text it is the node itself. -/
def Field.read (text : Option String) : Except ShapeProblem Field :=
  match text with
  | none => .ok .node
  | some "@key" => .ok .names
  | some text =>
    let segments := segmentsOf text
    if text.toList.head? = some '$' ∨ segments.any String.isEmpty then .error (.invalidField text)
    else .ok (.below segments)

/-! ## Shapes -/

/-- A check as it is written. -/
structure WrittenCheck where
  field : Option String
  function : String
  options : Option Json

def checkType : Json.RecordType :=
  ⟨"RawCheck",
    [.of "field" true (.optional .string), .of "function" false .string,
      .of "functionOptions" true (.optional .ok)]⟩

/-- The value of a member that is there and not null. -/
def present? (record : List (String × Json)) (name : String) : Option Json :=
  match Json.lookup name record with
  | some .null => none
  | v => v

def readWrittenCheck : Json.Reads WrittenCheck := fun v => do
  let record ← checkType.read v
  return ⟨Json.field? record "field" .string, (Json.field? record "function" .string).getD "",
    present? record "functionOptions"⟩

def ruleType : Json.RecordType :=
  ⟨"RawRule",
    [.of "description" true (.optional .string), .of "message" true (.optional .string),
      .of "severity" true (.optional .ok), .of "formats" true (.optional (.list .string)),
      .of "given" false (.oneOrMany .string), .of "then" false (.oneOrMany readWrittenCheck)]⟩

/-! ## Parts -/

def readImportance (v : Option Json) : Except Problem Importance :=
  match v with
  | none => .ok .warn
  | some v =>
    match Importance.ofJson? v with
    | some i => .ok i
    | none => .error (.importance v.display)

def readFormat (name : String) : Except Problem OpenApi.Filter :=
  match OpenApi.Filter.ofName? name with
  | some f => .ok f
  | none => .error (.format name)

def readGiven (text : String) : Except Problem Query := (Query.read text).mapError (.query text)

def readFunction (w : WrittenCheck) : Except Problem Function :=
  (Function.read w.function w.options).mapError fun
    | .unknown => .unknownFunction w.function
    | .options problem => .options w.function problem
    | .pattern source fault => .pattern source fault

def readCheck (w : WrittenCheck) : Except Problem Check := do
  let field ← (Field.read w.field).mapError .shape
  return ⟨field, ← readFunction w⟩

/-- The rule that a value writes. Its shape is looked at first, then its parts in the order severity,
formats, given and checks. -/
def read (name : String) (v : Json) : Except Problem Rule := do
  let record ← (ruleType.read v).mapError fun m => .shape (.mismatch m)
  let importance ← readImportance (present? record "severity")
  let formats ← ((Json.field? record "formats" (.list .string)).getD []).mapM readFormat
  let given ← ((Json.field? record "given" (.oneOrMany .string)).getD []).mapM readGiven
  if given.isEmpty then throw (.shape .noGiven)
  let checks ← ((Json.field? record "then" (.oneOrMany readWrittenCheck)).getD []).mapM readCheck
  if checks.isEmpty then throw (.shape .noChecks)
  return {
    name, importance, formats, given, checks
    description := Json.field? record "description" .string
    message := Json.field? record "message" .string }

end CatalogGate.Rule
