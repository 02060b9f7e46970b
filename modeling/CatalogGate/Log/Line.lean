-- Log lines: an event as a JSON object or as text for readers.
import CatalogGate.Json.Printer
import CatalogGate.Log.Event
import CatalogGate.Text.Quoted

namespace CatalogGate.Log

def Value.pretty : Value → String
  | .bare t => t
  | .text t => Text.quoted t
  | .count n => toString n
  | .flag true => "true"
  | .flag false => "false"

namespace Event

def jsonLine (e : Event) : String :=
  Json.compact (.object (("level", .string e.level.name) :: e.members ++ [("target", .string e.target)]))

/-- The message stands first and without a name. -/
def prettyLine (e : Event) : String :=
  let parts := e.message.toList ++ e.fields.map fun (name, value) => s!"{name}: {value.pretty}"
  s!"{e.level.name} {e.target}: " ++ ", ".intercalate parts

def line (f : Format) (e : Event) : String :=
  match f with
  | .json => e.jsonLine
  | .pretty => e.prettyLine

end Event

end CatalogGate.Log
