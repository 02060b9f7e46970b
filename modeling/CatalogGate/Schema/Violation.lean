-- What is wrong with a value by a schema, and where.
import CatalogGate.Json.Printer
import CatalogGate.Json.Path
import CatalogGate.Schema.Basic

namespace CatalogGate.Schema

inductive Complaint where
  | forbidden (value : Json)
  | wrongKind (value : Json) (kinds : List Kind)
  | notListed (value : Json) (options : List Json)
  | notConstant (expected : Json)
  | lessThanMinimum (value : Json) (limit : Json.Number)
  | greaterThanMaximum (value : Json) (limit : Json.Number)
  | notAbove (value : Json) (limit : Json.Number)
  | notBelow (value : Json) (limit : Json.Number)
  | notMultiple (value : Json) (divisor : Float)
  | tooShort (value : Json) (limit : Nat)
  | tooLong (value : Json) (limit : Nat)
  | noMatch (value : Json) (source : String)
  /-- The search for a pattern took too long. -/
  | searchStopped
  | notInFormat (value : Json) (format : String)
  | notEncoded (value : Json) (encoding : Encoding)
  /-- What the text encodes is no text itself. -/
  | noText (bytes : ByteArray) (offset : Nat)
  | notOfType (value : Json) (type : MediaType)
  | tooFewItems (value : Json) (limit : Nat)
  | tooManyItems (value : Json) (limit : Nat)
  | repeatedItems (value : Json)
  | unexpectedItems (items : List Json)
  | containsNone (value : Json)
  | tooFewMembers (value : Json) (limit : Nat)
  | tooManyMembers (value : Json) (limit : Nat)
  | missing (name : String)
  | unexpectedMembers (names : List String)
  | noneOf (value : Json)
  | noOneOf (value : Json)
  | severalOf (value : Json)
  | excluded (shown value : Json)
  | unusedMembers (names : List String)
  | unusedItems (items : List Json)

namespace Complaint

def joined (texts : List String) : String := ", ".intercalate texts

/-- The text behind a list of things that must not be there. -/
def unexpected (what : String) (texts : List String) : String :=
  what ++ " are not allowed (" ++ joined texts ++ (if texts.length = 1 then " was" else " were") ++ " unexpected)"

def quotes (texts : List String) : List String := texts.map fun t => "'" ++ t ++ "'"

def counted (n : Nat) (one many : String) : String := s!"{n} " ++ if n = 1 then one else many

def message : Complaint → String
  | forbidden value => s!"False schema does not allow {value.compact}"
  | wrongKind value kinds =>
    match kinds with
    | [kind] => s!"{value.compact} is not of type \"{kind.name}\""
    | _ =>
      s!"{value.compact} is not of types " ++ joined (kinds.map fun k => "\"" ++ k.name ++ "\"")
  | notListed value options => s!"{value.compact} is not one of {(Json.array options).compact}"
  | notConstant expected => s!"{expected.compact} was expected"
  | lessThanMinimum value limit => s!"{value.compact} is less than the minimum of {limit.text}"
  | greaterThanMaximum value limit => s!"{value.compact} is greater than the maximum of {limit.text}"
  | notAbove value limit => s!"{value.compact} is less than or equal to the minimum of {limit.text}"
  | notBelow value limit => s!"{value.compact} is greater than or equal to the maximum of {limit.text}"
  | notMultiple value divisor =>
    s!"{value.compact} is not a multiple of " ++ Decimal.Layout.plain.float divisor
  | tooShort value limit =>
    s!"{value.compact} is shorter than " ++ counted limit "character" "characters"
  | tooLong value limit => s!"{value.compact} is longer than " ++ counted limit "character" "characters"
  | noMatch value source => s!"{value.compact} does not match \"{source}\""
  | searchStopped => "Error executing regex: Max limit for backtracking count exceeded"
  | notInFormat value format => s!"{value.compact} is not a \"{format}\""
  | notEncoded value encoding => s!"{value.compact} is not compliant with \"{encoding.name}\" content encoding"
  | noText bytes offset => Text.faultMessage bytes offset
  | notOfType value type => s!"{value.compact} is not compliant with \"{type.name}\" media type"
  | tooFewItems value limit => s!"{value.compact} has less than " ++ counted limit "item" "items"
  | tooManyItems value limit => s!"{value.compact} has more than " ++ counted limit "item" "items"
  | repeatedItems value => s!"{value.compact} has non-unique elements"
  | unexpectedItems items => unexpected "Additional items" (items.map Json.compact)
  | containsNone value => s!"None of {value.compact} are valid under the given schema"
  | tooFewMembers value limit =>
    s!"{value.compact} has less than " ++ counted limit "property" "properties"
  | tooManyMembers value limit =>
    s!"{value.compact} has more than " ++ counted limit "property" "properties"
  | missing name => s!"{Json.quote name} is a required property"
  | unexpectedMembers names => unexpected "Additional properties" (quotes names)
  | noneOf value =>
    s!"{value.compact} is not valid under any of the schemas listed in the 'anyOf' keyword"
  | noOneOf value =>
    s!"{value.compact} is not valid under any of the schemas listed in the 'oneOf' keyword"
  | severalOf value =>
    s!"{value.compact} is valid under more than one of the schemas listed in the 'oneOf' keyword"
  | excluded shown value => s!"{shown.compact} is not allowed for {value.compact}"
  | unusedMembers names => unexpected "Unevaluated properties" (quotes names)
  | unusedItems items => unexpected "Unevaluated items" (quotes (items.map Json.compact))

end Complaint

structure Violation where
  path : Json.Path
  complaint : Complaint

def Violation.message (v : Violation) : String := v.complaint.message

end CatalogGate.Schema
