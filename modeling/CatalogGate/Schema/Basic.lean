-- Schemas: what a JSON value has to be like. A schema is a list of keywords, each of which looks at a value
-- on its own.
import CatalogGate.Json.Path
import CatalogGate.Pattern.Search
import CatalogGate.Schema.Content
import CatalogGate.Schema.Format
import CatalogGate.Schema.Site

namespace CatalogGate

/-- The kinds of values that a schema can ask for. -/
inductive Schema.Kind where
  | array
  | boolean
  | integer
  | null
  | number
  | object
  | string
deriving Repr, DecidableEq

mutual

inductive Schema where
  | anything
  | nothing
  | all (keywords : List Keyword)

inductive Keyword where
  | kinds (kinds : List Schema.Kind)
  /-- As before, but a number with a point is no integer, whatever stands behind the point. -/
  | kindsAsWritten (kinds : List Schema.Kind)
  | listed (options : List Json)
  | constant (value : Json)
  /-- Numbers. -/
  | minimum (limit : Json.Number)
  | maximum (limit : Json.Number)
  | moreThan (limit : Json.Number)
  | lessThan (limit : Json.Number)
  | multipleOf (divisor : Float)
  /-- Strings, counted in characters. -/
  | minLength (limit : Nat)
  | maxLength (limit : Nat)
  | pattern (source : String) (search : Pattern.Search)
  | format (format : Schema.Format)
  | encoded (encoding : Schema.Encoding)
  | document (encoding : Option Schema.Encoding) (type : Schema.MediaType)
  /-- Arrays. -/
  | minItems (limit : Nat)
  | maxItems (limit : Nat)
  | unique
  | firstItems (schemas : List Schema)
  | itemsFrom (position : Nat) (schema : Schema)
  | noItemsFrom (position : Nat)
  | contains (least : Nat) (most : Option Nat) (schema : Schema)
  /-- Objects. -/
  | minMembers (limit : Nat)
  | maxMembers (limit : Nat)
  | required (names : List String)
  | requiredWith (names : List (String × List String))
  | dependent (schemas : List (String × Schema))
  | named (schemas : List (String × Schema))
  | matching (schemas : List (Pattern.Search × Schema))
  /-- Members with a name of their own, members whose names match, and what all others have to be like. -/
  | members (named : List (String × Schema)) (matching : List (Pattern.Search × Schema)) (others : Schema)
  /-- As before, and there must be no others. -/
  | closed (named : List (String × Schema)) (matching : List (Pattern.Search × Schema))
  | noMembers
  | names (schema : Schema)
  /-- Schemas for the value itself. -/
  | allOf (schemas : List Schema)
  | anyOf (schemas : List Schema)
  | oneOf (schemas : List Schema)
  | not (shown : Json) (schema : Schema)
  | conditional (test yes no : Schema)
  | reference (schema : Schema)
  /-- The schema at a place, which is read when it is needed. -/
  | follow (site : Schema.Site)
  /-- The members and elements that nothing has marked. -/
  | otherMembers (marks : List Mark) (schema : Schema)
  | otherItems (marks : List Mark) (schema : Schema)

/-- What marks members or elements of a value as looked at. -/
inductive Mark where
  /-- Members that are right by the schemas of their names. -/
  | named (schemas : List (String × Schema))
  /-- Members whose names match, right or wrong. -/
  | matching (patterns : List Pattern.Search)
  /-- All members that are right by a schema. -/
  | rightMembers (schema : Schema)
  /-- A number of elements, and all of them. -/
  | firstItems (count : Nat)
  | allItems
  /-- All elements that are right by a schema. -/
  | rightItems (schema : Schema)
  /-- What is marked in an object that has a certain member. -/
  | withMember (name : String) (marks : List Mark)
  /-- What is marked in an object in any case, but in an array only if it is right by a schema. -/
  | branch (schema : Schema) (marks : List Mark)
  | conditional (test : Schema) (yes no : List Mark)
  /-- What the schema at a place marks. -/
  | follow (site : Schema.Site)

end

instance : Inhabited Schema := ⟨.anything⟩

namespace Schema

def Kind.name : Kind → String
  | array => "array"
  | boolean => "boolean"
  | integer => "integer"
  | null => "null"
  | number => "number"
  | object => "object"
  | string => "string"

/-- All kinds, in the order in which messages list them. -/
def Kind.all : List Kind := [array, boolean, integer, null, number, object, string]

def Kind.ofName? (name : String) : Option Kind := Kind.all.find? (·.name == name)

end Schema

end CatalogGate
