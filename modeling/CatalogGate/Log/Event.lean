-- What the program reports about its own work while it runs.
import CatalogGate.Json.Basic

namespace CatalogGate.Log

inductive Level where
  | trace
  | debug
  | info
  | warn
  | error
deriving Repr, DecidableEq

namespace Level

def name : Level → String
  | trace => "TRACE"
  | debug => "DEBUG"
  | info => "INFO"
  | warn => "WARN"
  | error => "ERROR"

/-- A greater rank is more urgent. -/
def rank : Level → Nat
  | trace => 1
  | debug => 2
  | info => 3
  | warn => 4
  | error => 5

end Level

/-- The value of a field. A bare text is shown without quotes where the others are quoted. -/
inductive Value where
  | bare (text : String)
  | text (text : String)
  | count (n : Nat)
  | flag (value : Bool)
deriving Repr, DecidableEq

def Value.toJson : Value → Json
  | bare t => .string t
  | text t => .string t
  | count n => .ofNat n
  | flag value => .bool value

structure Event where
  level : Level
  /-- The part of the program that reports. -/
  target : String
  message : Option String
  fields : List (String × Value)
deriving Repr, DecidableEq

namespace Event

/-- The message and the fields as members of an object. -/
def members (e : Event) : List (String × Json) :=
  (e.message.map fun m => ("message", Json.string m)).toList
    ++ e.fields.map fun (name, value) => (name, value.toJson)

end Event

/-- How log lines are written. -/
inductive Format where
  | json
  | pretty
deriving Repr, DecidableEq

def Format.name : Format → String
  | json => "json"
  | pretty => "pretty"

/-- Case does not count. -/
def Format.ofName? (name : String) : Option Format :=
  [Format.json, .pretty].find? (·.name == name.toLower)

end CatalogGate.Log
