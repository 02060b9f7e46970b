-- Why a YAML text cannot be read as a value.
import CatalogGate.Yaml.Fault
import CatalogGate.Yaml.Node

namespace CatalogGate.Yaml

/-- What stands where something else is wanted. -/
inductive Found where
  | unit
  | bool (value : Bool)
  | int (value : Int)
  | wide (value : Int)
  | float (value : Float)
  | text (value : String)
  | sequence
  | map
  | tagged

/-- Never with an exponent. -/
def Found.amount : Decimal.Layout := { Decimal.Layout.plain with pointZero := true }

def Found.floatText (f : Float) : String :=
  if f.isNaN then "NaN" else if f.isFinite then amount.float f else if f < 0.0 then "-inf" else "inf"

def Found.name : Found → String
  | unit => "unit value"
  | bool b => s!"boolean \x60{b}\x60"
  | int i => s!"integer \x60{i}\x60"
  | wide i => s!"integer \x60{i}\x60 as " ++ (if i < 0 then "i128" else "u128")
  | float f => "floating point \x60" ++ floatText f ++ "\x60"
  | text s => "string " ++ Text.quoted s
  | sequence => "sequence"
  | map => "map"
  | tagged => "enum"

def Found.ofScalar : Scalar → Found
  | .null => unit
  | .bool b => bool b
  | .int i => int i
  | .wide i => wide i
  | .float f => float f
  | .text s => text s

/-- What is wrong with a value at its place. -/
inductive ValueProblem where
  | repeatedKey (key : Node)
  | wrongType (found : Found) (expected : String)
  | wrongScalar (text : String) (expected : String)
  | unknownField (name : String) (expected : String)
  | repeatedField (name : String)
  | numberTooLarge

def ValueProblem.text : ValueProblem → String
  | repeatedKey key => "duplicate entry " ++ key.duplicateText
  | wrongType found expected => s!"invalid type: {found.name}, expected {expected}"
  | wrongScalar text expected => s!"invalid value: string {Text.quoted text}, expected {expected}"
  | unknownField name expected => s!"unknown field \x60{name}\x60, expected {expected}"
  | repeatedField name => s!"duplicate field \x60{name}\x60"
  | numberTooLarge => "JSON number out of range"

/-- Why a merge key cannot be applied. -/
inductive MergeProblem where
  | scalar
  | tagged
  | scalarElement
  | sequenceElement
deriving Repr, DecidableEq

def MergeProblem.text : MergeProblem → String
  | scalar => "expected a mapping or list of mappings for merging, but found scalar"
  | tagged => "unexpected tagged value in merge"
  | scalarElement => "expected a mapping for merging, but found scalar"
  | sequenceElement => "expected a mapping for merging, but found sequence"

inductive Error where
  /-- The text holds a character that YAML does not allow, so many bytes from its start. -/
  | unprintable (offset : Nat)
  | fault (fault : Fault)
  | unknownAnchor (mark : Mark)
  /-- Collections are nested more than 128 deep. -/
  | tooDeep (mark : Mark)
  | tooManyAliases
  | severalDocuments
  | value (problem : ValueProblem) (path : String) (mark : Mark)
  | merge (problem : MergeProblem)

namespace Error

def message : Error → String
  | unprintable offset =>
    if offset = 0 then "control characters are not allowed"
    else s!"control characters are not allowed at position {offset}"
  | fault f => f.message
  | unknownAnchor mark => "unknown anchor" ++ place mark
  | tooDeep mark => "recursion limit exceeded" ++ place mark
  | tooManyAliases => "repetition limit exceeded"
  | severalDocuments => "deserializing from YAML containing more than one document is not supported"
  | value problem path mark =>
    (if path = "." then "" else path ++ ": ") ++ problem.text ++ place mark
  | merge problem => problem.text
where
  place (mark : Mark) : String := if mark.isStart then "" else " at " ++ mark.text

/-- The bytes before the place of the error, where it has one. -/
def offset : Error → Option Nat
  | unprintable _ => some 0
  | fault f => some f.mark.index
  | unknownAnchor mark => some mark.index
  | tooDeep mark => some mark.index
  | value _ _ mark => some mark.index
  | tooManyAliases | severalDocuments | merge _ => none

end Error

end CatalogGate.Yaml
