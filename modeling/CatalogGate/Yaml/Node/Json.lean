-- YAML values as JSON values. Tags fall away, numbers that JSON does not have become text, and keys of
-- every kind become names.
import CatalogGate.Json.Basic
import CatalogGate.Text.Blank
import CatalogGate.Yaml.Node.Merge
import CatalogGate.Yaml.Node.Printer
import CatalogGate.Yaml.Node.Reading

namespace CatalogGate.Yaml

/-- The name that a key becomes: scalars keep their spelling, a collection is written in block style. One that
cannot be written has no name. -/
def Node.keyName : Node → String
  | .string s => s
  | .null => "null"
  | .bool b => toString b
  | .int i => toString i
  | .float f => floatText f
  | .tagged _ value => keyName value
  | value => (value.blockText?.map fun text => String.ofList (Text.trimEnd text.toList)).getD ""

def Node.jsonNumber (f : Float) : Json :=
  if f.isFinite then .number (.float f) else .string (floatText f)

mutual

/-- The JSON value of a YAML value. Of two keys with one name the later value stands in the earlier place. -/
def Node.toJson : Node → CatalogGate.Json
  | .null => .null
  | .bool b => .bool b
  | .int i => .number (.int i)
  | .float f => Node.jsonNumber f
  | .string s => .string s
  | .sequence items => .array (Node.itemsToJson items)
  | .mapping entries => .object (Node.entriesToJson [] entries)
  | .tagged _ value => Node.toJson value

def Node.itemsToJson : List Node → List CatalogGate.Json
  | [] => []
  | v :: rest => Node.toJson v :: Node.itemsToJson rest

/-- The members that entries add to those before them. -/
def Node.entriesToJson (members : List (String × CatalogGate.Json)) :
    List (Node × Node) → List (String × CatalogGate.Json)
  | [] => members
  | (k, v) :: rest => Node.entriesToJson (CatalogGate.Json.put k.keyName (Node.toJson v) members) rest

end

/-- The JSON value of a YAML text. A blank text is null. -/
def parse (text : String) : Except Error CatalogGate.Json :=
  let cs := text.toList
  if cs.all Text.isSpace then .ok .null
  else do
    let value ← Node.ofText cs
    match value.merged with
    | .ok value => return value.toJson
    | .error problem => throw (.merge problem)

end CatalogGate.Yaml
