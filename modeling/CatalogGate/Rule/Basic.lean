-- Rules: where they look, what they check there, and how bad it is if a check fails.
import CatalogGate.OpenApi.Version
import CatalogGate.Query.Basic
import CatalogGate.Rule.Function

namespace CatalogGate

/-- How bad a rule takes its failures; a rule can also be switched off. -/
inductive Rule.Importance where
  | error
  | warn
  | info
  | hint
  | off
deriving Repr, DecidableEq

namespace Rule.Importance

def name : Importance → String
  | error => "error"
  | warn => "warn"
  | info => "info"
  | hint => "hint"
  | off => "off"

/-- The level of diagnostics. A rule that is off has none. -/
def level? : Importance → Option Int
  | error => some 0
  | warn => some 1
  | info => some 2
  | hint => some 3
  | off => none

def ofName? (name : String) : Option Importance :=
  match name with
  | "error" => some error
  | "warn" => some warn
  | "warning" => some warn
  | "info" => some info
  | "information" => some info
  | "hint" => some hint
  | "off" => some off
  | _ => none

def ofNumber? (n : Int) : Option Importance :=
  if n = -1 then some off
  else if n = 0 then some error
  else if n = 1 then some warn
  else if n = 2 then some info
  else if n = 3 then some hint
  else none

/-- Names, small whole numbers and `false` say how important a rule is. -/
def ofJson? : Json → Option Importance
  | .string s => ofName? s
  | .bool false => some off
  | .number (.int n) => ofNumber? n
  | _ => none

end Rule.Importance

/-- What a check looks at, seen from a selected node. -/
inductive Rule.Field where
  /-- The node itself. -/
  | node
  /-- Every name of an object's members. -/
  | names
  /-- The end of a path below the node. -/
  | below (segments : List String)
deriving Repr, DecidableEq

/-- A field and the function that is applied to it. -/
structure Rule.Check where
  field : Rule.Field
  function : Rule.Function

structure Rule where
  name : String
  description : Option String
  /-- The template of messages. -/
  message : Option String
  importance : Rule.Importance
  /-- The formats that the rule is for. None means all documents, in a known format or not. -/
  formats : List OpenApi.Filter
  given : List Query
  checks : List Rule.Check

namespace Rule

def isEnabled (r : Rule) : Bool := r.importance != .off

/-- Whether the rule is for all documents. -/
def isAgnostic (r : Rule) : Bool := r.formats.isEmpty

/-- Whether the rule is for documents in a format, or in none that is known. -/
def appliesTo (r : Rule) (version : Option OpenApi.Version) : Bool :=
  r.isAgnostic || version.any fun v => r.formats.any (·.admits v)

end Rule

end CatalogGate
