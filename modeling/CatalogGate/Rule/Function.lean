-- The functions that rules apply to values, and what they say about them.
import CatalogGate.Json.Record
import CatalogGate.Pattern.Reader
import CatalogGate.Rule.Casing
import CatalogGate.Schema.Whole

namespace CatalogGate.Rule

/-- A pattern together with the text that wrote it. -/
structure WrittenPattern where
  source : String
  pattern : Pattern
deriving Repr, DecidableEq

inductive Function where
  | truthy
  | falsy
  | defined
  | undefined
  | pattern (wanted unwanted : Option WrittenPattern)
  | enumeration (values : List Json)
  | length (least most : Option Float)
  | casing (casing : Casing)
  | schema (schema : Schema.Whole)

namespace Function

def name : Function → String
  | truthy => "truthy"
  | falsy => "falsy"
  | defined => "defined"
  | undefined => "undefined"
  | pattern _ _ => "pattern"
  | enumeration _ => "enumeration"
  | length _ _ => "length"
  | casing _ => "casing"
  | schema _ => "schema"

/-! ## Evaluation -/

/-- Null, false, zero and the empty text are not truthy; everything else is. -/
def isTruthy : Json → Bool
  | .null => false
  | .bool b => b
  | .number n => !(n.toFloat == 0.0)
  | .string s => !s.isEmpty
  | .array _ => true
  | .object _ => true

/-- How long a value is: characters, elements or members; a number is its own length. -/
def measure? : Json → Option Float
  | .string s => some (Float.ofNat s.length)
  | .array items => some (Float.ofNat items.length)
  | .object members => some (Float.ofNat members.length)
  | .number n => some n.toFloat
  | _ => none

/-- What messages call the value of a property. -/
def subject (property : String) : String :=
  if property.isEmpty then "Value" else s!"\"{property}\" property"

/-- A message if a test fails. -/
def sayUnless (ok : Bool) (message : String) : List String := if ok then [] else [message]

def patternMessages (wanted unwanted : Option WrittenPattern) (s : String) : List String :=
  (match wanted with
    | some w => sayUnless (w.pattern.isFoundIn s.toList) s!"\"{s}\" must match the pattern \"{w.source}\""
    | none => [])
  ++ (match unwanted with
    | some w =>
      sayUnless (!w.pattern.isFoundIn s.toList) s!"\"{s}\" must not match the pattern \"{w.source}\""
    | none => [])

def enumerationMessages (values : List Json) (v : Json) : List String :=
  let allowed := ", ".intercalate (values.map Json.display)
  sayUnless (values.any fun w => w.same v)
    s!"\"{v.display}\" must be equal to one of the allowed values: {allowed}"

def lengthMessages (least most : Option Float) (length : Float) (property : String) : List String :=
  (match least with
    | some n =>
      sayUnless (!(length < n)) (subject property ++ " must not be shorter than " ++ Decimal.Layout.plain.float n)
    | none => [])
  ++ (match most with
    | some n =>
      sayUnless (!(n < length)) (subject property ++ " must not be longer than " ++ Decimal.Layout.plain.float n)
    | none => [])

/-- What a function says about a value, which is absent where the property does not exist. -/
def messages (f : Function) (value : Option Json) (property : String) : List String :=
  match f, value with
  | truthy, value => sayUnless (value.any isTruthy) (subject property ++ " must be truthy")
  | falsy, value => sayUnless (!value.any isTruthy) (subject property ++ " must be falsy")
  | defined, value => sayUnless value.isSome (subject property ++ " must be defined")
  | undefined, value => sayUnless value.isNone (subject property ++ " must not be defined")
  | pattern wanted unwanted, some (.string s) => patternMessages wanted unwanted s
  | enumeration values, some v => enumerationMessages values v
  | length least most, some v =>
    match measure? v with
    | some n => lengthMessages least most n property
    | none => []
  | casing c, some (.string s) => sayUnless (c.admits s) s!"\"{s}\" must be {c.name} case"
  | schema s, some v => (s.violations v).map Schema.Violation.message
  | _, _ => []

/-! ## Options -/

/-- Why a function cannot be made. -/
inductive OptionsProblem where
  | absent
  | mismatch (m : Json.Mismatch)
  | nothingToMatch
  | noLimit
  | unknownCasing (name : String)
  | noSchema (problem : Schema.Problem)

def OptionsProblem.message : OptionsProblem → String
  | absent => "functionOptions is required"
  | mismatch m => m.message
  | nothingToMatch => "one of 'match' or 'notMatch' is required"
  | noLimit => "one of 'min' or 'max' is required"
  | unknownCasing name => s!"unknown casing '{name}'"
  | noSchema problem => problem.message

inductive Problem where
  | unknown
  | options (problem : OptionsProblem)
  | pattern (source : String) (fault : Pattern.Fault)

def patternOptions : Json.RecordType :=
  ⟨"PatternOptions",
    [.of "match" true (.optional .string), .of "notMatch" true (.optional .string)]⟩

def enumerationOptions : Json.RecordType :=
  ⟨"EnumerationOptions", [.of "values" false (.list .ok)]⟩

def lengthOptions : Json.RecordType :=
  ⟨"LengthOptions",
    [.of "min" true (.optional .float), .of "max" true (.optional .float)]⟩

def casingOptions : Json.RecordType := ⟨"CasingOptions", [.of "type" false .string]⟩

def schemaOptions : Json.RecordType := ⟨"SchemaOptions", [.of "schema" false .ok]⟩

/-- The members of options, which have to be there. -/
def readOptions (t : Json.RecordType) (options : Option Json) : Except Problem (List (String × Json)) :=
  match options with
  | none => .error (.options .absent)
  | some v => (t.read v).mapError fun m => .options (.mismatch m)

def readPattern (source : String) : Except Problem WrittenPattern :=
  match Pattern.ofText source with
  | .ok p => .ok ⟨source, p⟩
  | .error fault => .error (.pattern source fault)

def readPatternFunction (options : Option Json) : Except Problem Function := do
  let record ← readOptions patternOptions options
  let wanted := Json.field? record "match" .string
  let unwanted := Json.field? record "notMatch" .string
  if wanted.isNone && unwanted.isNone then throw (.options .nothingToMatch)
  let wanted ← wanted.mapM readPattern
  return pattern wanted (← unwanted.mapM readPattern)

def readLengthFunction (options : Option Json) : Except Problem Function := do
  let record ← readOptions lengthOptions options
  let least := Json.field? record "min" .float
  let most := Json.field? record "max" .float
  if least.isNone && most.isNone then throw (.options .noLimit)
  return length least most

def readCasingFunction (options : Option Json) : Except Problem Function := do
  let record ← readOptions casingOptions options
  let name := (Json.field? record "type" .string).getD ""
  match Casing.ofName? name with
  | some c => return casing c
  | none => throw (.options (.unknownCasing name))

def readSchemaFunction (options : Option Json) : Except Problem Function := do
  let record ← readOptions schemaOptions options
  match Schema.Whole.ofJson ((Json.lookup "schema" record).getD .null) with
  | .ok s => return schema s
  | .error problem => throw (.options (.noSchema problem))

/-- The function with a name and options. -/
def read (name : String) (options : Option Json) : Except Problem Function :=
  match name with
  | "truthy" => .ok truthy
  | "falsy" => .ok falsy
  | "defined" => .ok defined
  | "undefined" => .ok undefined
  | "pattern" => readPatternFunction options
  | "enumeration" => do
    let record ← readOptions enumerationOptions options
    return enumeration ((Json.field? record "values" (.list .ok)).getD [])
  | "length" => readLengthFunction options
  | "casing" => readCasingFunction options
  | "schema" => readSchemaFunction options
  | _ => .error .unknown

end Function

end CatalogGate.Rule
